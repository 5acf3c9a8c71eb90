import SceneWorkflow.Proofs.Cascade.Outcomes
import SceneWorkflow.Proofs.Engine.Atomicity
import SceneWorkflow.Proofs.Engine.Splices
import SceneWorkflow.Proofs.Engine.Traffic

/-!
# What requests queue

A request for a scene or tile that is accepted queues one job for everything that it
hands out, and nothing else: the entity itself, or the tiles that its end lets start.
-/
namespace SceneWorkflow
open Store

def Cascade.change (kind : EntityKind) (id : Int) (requested : Status) (message : Option String)
    (force : Bool) : Work Bool :=
  match kind with
  | .scene => changeScene id requested message force
  | .tile => changeTile id requested message force

namespace Store
variable {s s' s'' : Store} {kind : EntityKind} {id : Int} {requested : Status}
  {message : Option String} {force accepted : Bool} {change : Transition} {budget : Int}
  {area : String} {notices : List Notice}

def entityBudget? (s : Store) : EntityKind → Int → Option Int
  | .scene, id => (s.scene? id).map (·.budget)
  | .tile, id => (s.tile? id).map (·.budget)

def entityAoi? (s : Store) : EntityKind → Int → Option String
  | .scene, id => (s.scene? id).map (·.aoi)
  | .tile, id => (s.tile? id).bind s.aoiOf?

/-- A request for an entity that is there is rejected without effect, or has the outcome described. -/
structure Decides (kind : EntityKind) (id : Int) (requested : Status) (message : Option String)
    (force : Bool) (s s' : Store) (accepted : Bool) (present : Status) (budget : Int)
    (area : String) : Prop where
  present_eq : s.entityStatus? kind id = some present
  budget_eq : s.entityBudget? kind id = some budget
  area_eq : s.entityAoi? kind id = some area
  effect : present.transition requested force = none ∧ accepted = false ∧ s' = s ∨
    ∃ change, present.transition requested force = some change ∧ accepted = true ∧
      ∃ s₁ notices, Outcome kind id change budget message area s s₁ notices ∧
        s' = (s₁.refreshAoiStatus area).2

end Store

namespace Cascade
variable {s s' : Store} {kind : EntityKind} {id : Int} {requested : Status}
  {message : Option String} {force accepted : Bool}

theorem decides_changeScene (h : Forest s)
    (hok : (changeScene id requested message force).exec s = .ok (accepted, s')) :
    ∃ present budget area,
      Decides .scene id requested message force s s' accepted present budget area := by
  obtain ⟨x, hx, rfl, heffect⟩ := changeScene_eq_ok hok
  refine ⟨x.status, x.budget, x.aoi, sceneStatus?_of_scene? hx, congrArg (Option.map Scene.budget) hx,
    congrArg (Option.map Scene.aoi) hx, ?_⟩
  rcases heffect with hrejected | ⟨change, hchange, haccepted, s₁, happly, rfl⟩
  · exact .inl hrejected
  · obtain ⟨notices, houtcome⟩ := outcome_applyToScene h hx happly
    exact .inr ⟨change, hchange, haccepted, s₁, notices, houtcome, rfl⟩

theorem decides_changeTile (h : Forest s)
    (hok : (changeTile id requested message force).exec s = .ok (accepted, s')) :
    ∃ present budget area,
      Decides .tile id requested message force s s' accepted present budget area := by
  obtain ⟨t, x, ht, rfl, hx, heffect⟩ := changeTile_eq_ok hok
  have harea : s.aoiOf? t = some x.aoi := congrArg (Option.map Scene.aoi) hx
  refine ⟨t.status, t.budget, x.aoi, tileStatus?_of_tile? ht, congrArg (Option.map Tile.budget) ht,
    ?_, ?_⟩
  · rw [entityAoi?, ht]
    exact harea
  · rcases heffect with hrejected | ⟨change, hchange, haccepted, s₁, happly, rfl⟩
    · exact .inl hrejected
    · obtain ⟨notices, houtcome⟩ := outcome_applyToTile h ht harea happly
      exact .inr ⟨change, hchange, haccepted, s₁, notices, houtcome, rfl⟩

theorem decides_change (h : Forest s)
    (hok : (change kind id requested message force).exec s = .ok (accepted, s')) :
    ∃ present budget area,
      Decides kind id requested message force s s' accepted present budget area := by
  cases kind with
  | scene => exact decides_changeScene h hok
  | tile => exact decides_changeTile h hok

end Cascade

structure Demand where
  kind : EntityKind
  id : Int
  status : Status
  force : Bool
deriving DecidableEq

namespace Task

def demand? : Task → Option Demand
  | changeScene id status _ force => some ⟨.scene, id, status, force⟩
  | changeTile id status _ force => some ⟨.tile, id, status, force⟩
  | _ => none

def isAccepted : (task : Task) → task.Answer → Bool
  | changeScene _ _ _ _, accepted => accepted
  | changeTile _ _ _ _, accepted => accepted
  | _, _ => true

theorem exec_of_demand {task : Task} {d : Demand} {a : task.Answer} {s s' : Store}
    (hd : task.demand? = some d) (hok : task.body.exec s = .ok (a, s')) :
    ∃ message, (Cascade.change d.kind d.id d.status message d.force).exec s =
      .ok (task.isAccepted a, s') := by
  cases task with
  | changeScene id requested message force =>
    cases hd
    exact ⟨message, hok⟩
  | changeTile id requested message force =>
    cases hd
    exact ⟨message, hok⟩
  | ingest _ | updateSceneAttrs _ _ | updateTileAttrs _ _ => cases hd

theorem demand?_change (kind : EntityKind) (id : Int) (requested : Status)
    (message : Option String) (force : Bool) :
    (change kind id requested message force).demand? = some ⟨kind, id, requested, force⟩ := by
  cases kind <;> rfl

end Task

section
variable {σ : Type} [Sink σ] {w : World σ} {kind : EntityKind} {id : Int} {requested : Status}
  {message : Option String} {force accepted : Bool}

/-- A request that is answered commits what it comes to. -/
theorem updateStatus_commits (h : w.store.Queued)
    (hok : (updateStatus kind id requested message force w).1 = .ok accepted) :
    ∃ committed, (Cascade.change kind id requested message force).exec w.store =
        .ok (accepted, committed) ∧
      Commits w committed (updateStatus kind id requested message force w).2 := by
  cases kind with
  | scene =>
    have hscene : (transact "update_scene_status"
        (Task.changeScene id requested message force).body w).1 = .ok accepted := hok
    exact Task.commits h hscene
  | tile =>
    have htile : (transact "update_tile_status"
        (Task.changeTile id requested message force).body w).1 = .ok accepted := hok
    exact Task.commits h htile

theorem updateStatus_of_meets {P : Option Fault → Prop} (hP : ¬ P (some .cancel)) (h : w.Meets P) :
    RefusedOr P (updateStatus kind id requested message force w).1
      (((Cascade.change kind id requested message force).exec w.store).map fun r => r.1) := by
  cases kind with
  | scene =>
    have hanswer := transact_of_meets hP "update_scene_status"
      (Task.changeScene id requested message force).body h
    rw [(Task.faithful _ w.store).map_exec] at hanswer
    exact hanswer
  | tile =>
    have hanswer := transact_of_meets hP "update_tile_status"
      (Task.changeTile id requested message force).body h
    rw [(Task.faithful _ w.store).map_exec] at hanswer
    exact hanswer

theorem updateStatus_rows (kind : EntityKind) (id : Int) (requested : Status)
    (message : Option String) (force : Bool) (w : World σ) :
    (∃ e, (updateStatus kind id requested message force w).1 = .error e ∧
      (updateStatus kind id requested message force w).2.store = w.store) ∨
    ∃ accepted s, (Cascade.change kind id requested message force).exec w.store =
        .ok (accepted, s) ∧
      (updateStatus kind id requested message force w).1 = .ok accepted ∧
      SameRows s (updateStatus kind id requested message force w).2.store := by
  cases kind with
  | scene => exact (Task.changeScene id requested message force).transact_rows _ w
  | tile => exact (Task.changeTile id requested message force).transact_rows _ w

theorem updateStatus_error {e : Error}
    (hfails : (updateStatus kind id requested message force w).1 = .error e) :
    (updateStatus kind id requested message force w).2.store = w.store := by
  rcases updateStatus_rows kind id requested message force w with
    ⟨-, -, hstore⟩ | ⟨accepted, s, -, hresult, -⟩
  · exact hstore
  · cases hresult.symm.trans hfails

end

/-! ### One job for everything that is handed out -/

namespace Store
variable {s s' s'' : Store} {kind : EntityKind} {id k : Int} {message : Option String}
  {change : Transition} {budget : Int} {area : String} {notices : List Notice} {gone : List Int}

/-- The jobs that a request queues. There is one for the entity if it is handed out again, and one for
every tile that starts because the entity has finished or failed. No scene or tile has two. Each
describes its scene or tile, and names what a tile follows, as the unit of work leaves them. -/
structure Activates (kind : EntityKind) (id : Int) (change : Transition) (budget : Int)
    (s s' : Store) (notices : List Notice) : Prop where
  posts : s.Posts notices s'
  distinct : (notices.map Notice.subject).Nodup
  subjects : ∀ topic k, (topic, k) ∈ notices.map Notice.subject ↔
    topic = kind.topic ∧ k = id ∧ change.handsOut budget = true ∨
    topic = .tileJobs ∧ (change = .finish ∨ change = .fail) ∧
      s.tileStatus? k = some .new ∧ s'.tileStatus? k = some .pending
  current : ∀ n ∈ notices, s'.Carries n

/-- Tiles start only when an entity has finished or failed, and it is not among them. -/
theorem Outcome.starts_iff (h : Outcome kind id change budget message area s s' notices) (k : Int) :
    (s.moved kind id (change.update budget message)).tileStatus? k = some .new ∧
        s'.tileStatus? k = some .pending ↔
      (change = .finish ∨ change = .fail) ∧ s.tileStatus? k = some .new ∧
        s'.tileStatus? k = some .pending := by
  constructor
  · rintro ⟨hnew, hpending⟩
    have hend : change = .finish ∨ change = .fail := by
      refine Decidable.byContradiction fun hneither => ?_
      rw [not_or] at hneither
      have hsame := h.quiet hneither.1 hneither.2
      rw [tileStatus?, tile?, hsame] at hpending
      cases hnew.symm.trans hpending
    refine ⟨hend, ?_, hpending⟩
    rw [tileStatus?_moved] at hnew
    split at hnew
    · obtain ⟨_, -, hstatus⟩ := Option.map_eq_some_iff.1 hnew
      exact absurd hstatus (Transition.status_update_of_end hend budget message).1
    · exact hnew
  · rintro ⟨hend, hnew, hpending⟩
    refine ⟨?_, hpending⟩
    have hbefore := h.ripples.pending_before hpending
    rw [tileStatus?_moved] at hbefore ⊢
    split at hbefore
    · obtain ⟨hstatus, hother⟩ := Transition.status_update_of_end hend budget message
      rw [hnew] at hbefore
      rcases hbefore with hbefore | hbefore
      · exact absurd (Option.some.inj hbefore) hstatus
      · exact absurd (Option.some.inj hbefore) hother
    · next hne => rw [if_neg hne, hnew]

theorem Outcome.activates (h : Outcome kind id change budget message area s s' notices) :
    Activates kind id change budget s s' notices where
  posts := h.posts
  distinct := h.distinct
  subjects := by
    intro topic k
    rw [h.subjects, h.starts_iff]
  current := h.current

/-- If nothing ends then no job is queued but that of the entity, if it is handed out. -/
theorem Outcome.subjects_of_quiet (h : Outcome kind id change budget message area s s' notices)
    (hfinish : change ≠ .finish) (hfail : change ≠ .fail) :
    notices.map Notice.subject =
      if change.handsOut budget = true then [(kind.topic, id)] else [] := by
  have hmem (subject : Topic × Int) : subject ∈ notices.map Notice.subject ↔
      subject = (kind.topic, id) ∧ change.handsOut budget = true := by
    obtain ⟨topic, k⟩ := subject
    rw [h.activates.subjects, Prod.mk.injEq]
    constructor
    · rintro (⟨rfl, rfl, hout⟩ | ⟨-, hend, -⟩)
      · exact ⟨⟨rfl, rfl⟩, hout⟩
      · exact absurd hend (not_or.2 ⟨hfinish, hfail⟩)
    · rintro ⟨⟨rfl, rfl⟩, hout⟩
      exact .inl ⟨rfl, rfl, hout⟩
  split
  next hout =>
    have hsingle : [(kind.topic, id)].Nodup := List.pairwise_singleton _ _
    refine List.perm_singleton.1 ((List.perm_ext_iff_of_nodup h.distinct hsingle).2 fun subject => ?_)
    rw [hmem, List.mem_singleton]
    exact and_iff_left hout
  next hstays =>
    refine List.eq_nil_iff_forall_not_mem.2 fun subject hsubject => ?_
    exact hstays ((hmem subject).1 hsubject).2

/-- If nothing ends and the entity is handed out then one job is queued, for it. -/
theorem Outcome.job_of_handsOut (h : Outcome kind id change budget message area s s' notices)
    (hfinish : change ≠ .finish) (hfail : change ≠ .fail) (hout : change.handsOut budget = true) :
    ∃ n : Notice, n.subject = (kind.topic, id) ∧ s.Posts [n] (s'.refreshAoiStatus area).2 ∧
      (s'.refreshAoiStatus area).2.Carries n := by
  have hsole := h.subjects_of_quiet hfinish hfail
  rw [if_pos hout] at hsole
  obtain ⟨n, rfl, hsubject⟩ := List.map_eq_singleton_iff.1 hsole
  refine ⟨n, hsubject, ?_, ?_⟩
  · unfold Posts
    rw [outbox_refreshAoiStatus]
    exact h.posts
  · exact (sameRows_refreshAoiStatus s' area).carries (h.current n List.mem_cons_self)

/-- If nothing ends and nothing is handed out then no job is queued. -/
theorem Outcome.outbox_of_stays (h : Outcome kind id change budget message area s s' notices)
    (hfinish : change ≠ .finish) (hfail : change ≠ .fail) (hstays : change.handsOut budget = false) :
    s'.outbox = s.outbox := by
  have hnone := h.subjects_of_quiet hfinish hfail
  rw [hstays, if_neg Bool.false_ne_true] at hnone
  obtain rfl := List.map_eq_nil_iff.1 hnone
  obtain ⟨jobs, hout, hjobs⟩ := h.posts
  obtain rfl := List.map_eq_nil_iff.1 hjobs
  rw [hout, List.append_nil]

theorem Activates.of_sameRows (h : Activates kind id change budget s s' notices)
    (hsame : SameRows s' s'') (hout : s''.outbox = s'.outbox) :
    Activates kind id change budget s s'' notices where
  posts := by
    unfold Posts
    rw [hout]
    exact h.posts
  distinct := h.distinct
  subjects := by
    intro topic k
    rw [h.subjects, hsame.tileStatus?]
  current := fun n hn => hsame.carries (h.current n hn)

end Store

/-- In every store that comes about, forced or not, a request that is accepted queues exactly one job
for everything that it hands out. One that is rejected queues none, and one that fails has no
effect. -/
theorem Attainable.activations {σ : Type} [Sink σ] {w : World σ} (h : Attainable w.store)
    (kind : EntityKind) (id : Int) (requested : Status) (message : Option String) (force : Bool) :
    (∀ e, (updateStatus kind id requested message force w).1 = .error e →
      (updateStatus kind id requested message force w).2.store = w.store) ∧
    ∀ accepted, (updateStatus kind id requested message force w).1 = .ok accepted →
      ∃ committed present budget,
        Commits w committed (updateStatus kind id requested message force w).2 ∧
        w.store.entityStatus? kind id = some present ∧
        w.store.entityBudget? kind id = some budget ∧
        match present.transition requested force with
        | none => accepted = false ∧ committed = w.store
        | some change => accepted = true ∧
            ∃ notices, Activates kind id change budget w.store committed notices := by
  refine ⟨fun e hfails => updateStatus_error hfails, fun accepted hok => ?_⟩
  obtain ⟨committed, hexec, hcommits⟩ := updateStatus_commits h.queued hok
  obtain ⟨present, budget, area, hdecides⟩ := Cascade.decides_change h.forest hexec
  refine ⟨committed, present, budget, hcommits, hdecides.present_eq, hdecides.budget_eq, ?_⟩
  rcases hdecides.effect with
    ⟨hnone, haccepted, hsame⟩ | ⟨change, hchange, haccepted, s₁, notices, houtcome, rfl⟩
  · rw [hnone]
    exact ⟨haccepted, hsame⟩
  · rw [hchange]
    exact ⟨haccepted, notices, houtcome.activates.of_sameRows (sameRows_refreshAoiStatus s₁ area)
      (outbox_refreshAoiStatus s₁ area)⟩

/-- Of two tiles in a row the first is worked on. -/
def underway : World Recorder := awaited.after [.updateStatus .scene 1 .done none false]

/-- The first tile is done, and the second starts. -/
theorem activations_underway :
    Attainable underway.store ∧ (updateStatus .tile 1 .done none false underway).1 = .ok true ∧
      ∃ committed notices,
        Commits underway committed (updateStatus .tile 1 .done none false underway).2 ∧
        Activates .tile 1 .finish 0 underway.store committed notices := by
  have hattain : Attainable underway.store := (Attainable.empty.after _).after _
  have hdecided : (updateStatus .tile 1 .done none false underway).1.toOption = some true := by
    decide +kernel
  have hok := toOption_eq_some.1 hdecided
  have hstatus : underway.store.entityStatus? .tile 1 = some .pending := by decide +kernel
  have hbudget : underway.store.entityBudget? .tile 1 = some 0 := by decide +kernel
  obtain ⟨committed, present, budget, hcommits, hpresent, hleft, heffect⟩ :=
    (hattain.activations .tile 1 .done none false).2 true hok
  cases hpresent.symm.trans hstatus
  cases hleft.symm.trans hbudget
  obtain ⟨-, notices, hactivates⟩ := heffect
  exact ⟨hattain, hok, committed, notices, hcommits, hactivates⟩

end SceneWorkflow
