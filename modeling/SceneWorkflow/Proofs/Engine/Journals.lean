import SceneWorkflow.Proofs.Engine.Admissions
import SceneWorkflow.Proofs.Engine.Endings

/-!
# Journals and budgets

A journal lists the units of work that have been committed on the way from one store to
another. Whatever is done to a world leaves one. A request to retry takes one off the
budget of a scene or tile if it finds it handed out, with some budget left, and is not
forced. Nothing else touches the budget of what is there.
-/
namespace SceneWorkflow
open Store

/-! ### Rows and their budgets -/

namespace Transition

/-- Only a retry takes from the budget, and only if something is left. -/
theorem consume_update {change : Transition} {budget : Int} {message : Option String} :
    (change.update budget message).consume = true ↔ change = .retry ∧ 0 < budget := by
  cases change with
  | retry =>
    unfold update
    dsimp only
    split <;> simp [*]
  | finish | requeue | fail | overwrite => exact ⟨nofun, nofun⟩

end Transition

namespace Store
variable {s s' : Store} {kind kind' : EntityKind} {id k : Int} {gone : List Int}

theorem SameRows.entityBudget? (h : SameRows s s') (kind : EntityKind) (id : Int) :
    s'.entityBudget? kind id = s.entityBudget? kind id := by
  cases kind with
  | scene => exact congrArg (Option.map Scene.budget) (h.scene? id)
  | tile => exact congrArg (Option.map Tile.budget) (h.tile? id)

theorem entityBudget?_eq_none :
    s.entityBudget? kind id = none ↔ s.entityStatus? kind id = none := by
  cases kind <;> exact Option.map_eq_none_iff.trans Option.map_eq_none_iff.symm

theorem entityBudget?_moved (s : Store) (kind : EntityKind) (id : Int) (u : StatusUpdate)
    (kind' : EntityKind) (k : Int) :
    (s.moved kind id u).entityBudget? kind' k = (s.entityBudget? kind' k).map fun budget =>
      if (kind, id) = (kind', k) ∧ u.consume = true then budget - 1 else budget := by
  cases kind' with
  | scene =>
    show ((s.moved kind id u).scene? k).map (·.budget) = ((s.scene? k).map (·.budget)).map _
    rw [scene?_moved, Option.map_map, Option.map_map]
    refine Option.map_congr fun x hx => ?_
    obtain rfl := scene?_id hx
    by_cases hsame : kind = .scene ∧ x.id = id
    · simp [movedScene, hsame, Scene.update]
    · have hother : ¬ (kind = .scene ∧ id = x.id) := fun h => hsame ⟨h.1, h.2.symm⟩
      simp [movedScene, hsame, hother]
  | tile =>
    show ((s.moved kind id u).tile? k).map (·.budget) = ((s.tile? k).map (·.budget)).map _
    rw [tile?_moved, Option.map_map, Option.map_map]
    refine Option.map_congr fun t ht => ?_
    obtain rfl := tile?_id ht
    by_cases hsame : kind = .tile ∧ t.id = id
    · simp [movedTile, hsame, Tile.update]
    · have hother : ¬ (kind = .tile ∧ id = t.id) := fun h => hsame ⟨h.1, h.2.symm⟩
      simp [movedTile, hsame, hother]

theorem Shifts.entityBudget? (h : Shifts gone s s') (kind : EntityKind) (id : Int) :
    s'.entityBudget? kind id = s.entityBudget? kind id := by
  cases kind with
  | scene => exact congrArg (Option.map Scene.budget) (h.scene? id)
  | tile =>
    show (s'.tile? id).map (·.budget) = (s.tile? id).map (·.budget)
    cases ht : s.tile? id with
    | none => rw [h.tile?_eq_none ht]
    | some t =>
      obtain ⟨t', ht', hmoves⟩ := h.row id t ht
      rw [ht', Option.map_some, Option.map_some, hmoves.same]

theorem entityBudget?_modifyScenes {p : Scene → Bool} {f : Scene → Scene}
    (hf : ∀ x, (f x).id = x.id ∧ (f x).budget = x.budget) :
    (s.modifyScenes p f).entityBudget? kind id = s.entityBudget? kind id := by
  cases kind with
  | scene => exact map_scene?_modifyScenes hf s id
  | tile => rfl

theorem entityBudget?_modifyTiles {p : Tile → Bool} {f : Tile → Tile}
    (hf : ∀ t, (f t).id = t.id ∧ (f t).budget = t.budget) :
    (s.modifyTiles p f).entityBudget? kind id = s.entityBudget? kind id := by
  cases kind with
  | scene => rfl
  | tile => exact map_tile?_modifyTiles hf s id

/-- The rows of a scene that is taken up have the budget that was requested. -/
theorem TakesUp.entityBudget? {r : SceneRequest} {scene : Int} (h : s.TakesUp r scene s')
    (kind : EntityKind) (id : Int) :
    ∃ added, s'.entityBudget? kind id = (s.entityBudget? kind id).or added ∧
      ∀ budget ∈ added, budget = r.budget.toInt := by
  cases kind with
  | scene =>
    let row : Scene :=
      { id := scene, sourceId := r.sourceId, aoi := r.aoi, status := .pending, attrs := r.attrs,
        budget := r.budget.toInt }
    refine ⟨([row].find? fun x => x.id == id).map (·.budget), ?_, ?_⟩
    · show (s'.scene? id).map (·.budget) = ((s.scene? id).map (·.budget)).or _
      rw [scene?, h.scenes, List.find?_append, Option.map_or]
      rfl
    · intro budget hbudget
      obtain ⟨x, hx, rfl⟩ := Option.map_eq_some_iff.1 hbudget
      rw [List.mem_singleton.1 (List.mem_of_find?_eq_some hx)]
  | tile =>
    obtain ⟨ts, htiles, -, hfulfils⟩ := h.tiles
    refine ⟨(ts.find? fun t => t.id == id).map (·.budget), ?_, ?_⟩
    · show (s'.tile? id).map (·.budget) = ((s.tile? id).map (·.budget)).or _
      rw [tile?, htiles, List.find?_append, Option.map_or]
      rfl
    · intro budget hbudget
      obtain ⟨t, ht, rfl⟩ := Option.map_eq_some_iff.1 hbudget
      obtain ⟨q, -, hq⟩ := hfulfils t (List.mem_of_find?_eq_some ht)
      rw [hq.row]

end Store

/-! ### Entries -/

/-- A unit of work that has been committed: the store that it found, what it answered, and the store
that it left. -/
structure Entry where
  task : Task
  before : Store
  answer : task.Answer
  after : Store
  committed : task.body.exec before = .ok (answer, after)

namespace Entry
variable {e : Entry} {kind : EntityKind} {id : Int} {d : Demand} {force : Bool}

def Applies (e : Entry) (d : Demand) : Prop :=
  e.task.demand? = some d ∧ e.task.isAccepted e.answer = true

/-- An unforced request to retry a scene or tile has been accepted. It found it handed out, with some
budget left. -/
def Charges (e : Entry) (kind : EntityKind) (id : Int) : Prop :=
  e.Applies ⟨kind, id, .retry, false⟩ ∧ e.before.entityStatus? kind id = some .pending ∧
    ∃ n ∈ e.before.entityBudget? kind id, 0 < n

instance (e : Entry) (kind : EntityKind) (id : Int) : Decidable (e.Charges kind id) :=
  inferInstanceAs (Decidable ((_ ∧ _) ∧ _ ∧ _))

structure Ingests (e : Entry) (kind : EntityKind) (id : Int) (budget : Int32) : Prop where
  request : ∃ r, e.task = .ingest r ∧ r.budget = budget
  absent : e.before.entityStatus? kind id = none
  present : (e.after.entityStatus? kind id).isSome

/-- A scene or tile is handed out, and one job has been queued, for it. -/
structure HandsOut (e : Entry) (kind : EntityKind) (id : Int) : Prop where
  status : e.after.entityStatus? kind id = some .pending
  job : ∃ n : Notice, n.subject = (kind.topic, id) ∧ e.before.Posts [n] e.after ∧ e.after.Carries n

/-- A scene or tile waits for an operator, and no job has been queued. -/
structure Parks (e : Entry) (kind : EntityKind) (id : Int) : Prop where
  status : e.after.entityStatus? kind id = some .retry
  outbox : e.after.outbox = e.before.outbox

theorem decides (h : Forest e.before) (hd : e.task.demand? = some d) :
    ∃ message present budget area, Decides d.kind d.id d.status message d.force e.before e.after
      (e.task.isAccepted e.answer) present budget area := by
  obtain ⟨message, hexec⟩ := Task.exec_of_demand hd e.committed
  exact ⟨message, Cascade.decides_change h hexec⟩

end Entry

/-- A request to retry that is accepted amounts to that, or parks the entity if it is forced. -/
theorem Status.transition_retry {present : Status} {force : Bool} {change : Transition}
    (h : present.transition .retry force = some change) :
    change = .retry ∨ change = .overwrite .retry := by
  cases force <;> cases present <;> cases h <;> simp [Status.forced]

/-- Only an unforced request to retry what is handed out amounts to a retry. -/
theorem Status.transition_eq_retry {present requested : Status} {force : Bool} :
    present.transition requested force = some .retry ↔
      present = .pending ∧ requested = .retry ∧ force = false := by
  cases force <;> cases present <;> cases requested <;> decide

namespace Entry
variable {e : Entry} {kind : EntityKind} {id : Int} {d : Demand} {force : Bool}

/-- A request that is accepted charges its own entity, if it amounts to a retry and there is something
left, and no other. -/
theorem charges_iff {message : Option String} {present : Status} {budget : Int} {area : String}
    {change : Transition} (happlies : e.Applies d)
    (h : Decides d.kind d.id d.status message d.force e.before e.after
      (e.task.isAccepted e.answer) present budget area)
    (hchange : present.transition d.status d.force = some change) :
    e.Charges kind id ↔ (d.kind, d.id) = (kind, id) ∧ change = .retry ∧ 0 < budget := by
  constructor
  · rintro ⟨⟨hunforced, -⟩, hpending, n, hn, hpositive⟩
    cases happlies.1.symm.trans hunforced
    cases h.present_eq.symm.trans hpending
    cases h.budget_eq.symm.trans hn
    cases hchange
    exact ⟨rfl, rfl, hpositive⟩
  · rintro ⟨hsame, rfl, hpositive⟩
    obtain ⟨kind', k, requested, force⟩ := d
    cases hsame
    obtain ⟨rfl, hretry, hforce⟩ := Status.transition_eq_retry.1 hchange
    cases hretry
    cases hforce
    exact ⟨happlies, h.present_eq, budget, h.budget_eq, hpositive⟩

/-- A request to retry that is accepted hands the entity out again if it takes from its budget, and
parks it otherwise. -/
theorem retries (h : Forest e.before) (happlies : e.Applies ⟨kind, id, .retry, force⟩) :
    if e.Charges kind id then e.HandsOut kind id else e.Parks kind id := by
  obtain ⟨message, present, budget, area, hdecides⟩ := decides h happlies.1
  rcases hdecides.effect with
    ⟨-, hrejected, -⟩ | ⟨change, hchange, -, s₁, notices, houtcome, hafter⟩
  · cases happlies.2.symm.trans hrejected
  have hcharges : e.Charges kind id ↔ (kind, id) = (kind, id) ∧ change = .retry ∧ 0 < budget :=
    charges_iff happlies hdecides hchange
  have hmoves := Status.transition_retry hchange
  have hfinish : change ≠ .finish := by rcases hmoves with rfl | rfl <;> nofun
  have hfail : change ≠ .fail := by rcases hmoves with rfl | rfl <;> nofun
  have hstatus : e.after.entityStatus? kind id = some (change.update budget message).status := by
    rw [hafter, (sameRows_refreshAoiStatus s₁ area).entityStatus?,
      houtcome.entityStatus?_of_quiet hfinish hfail]
    exact entityStatus?_moved (Option.isSome_of_eq_some hdecides.present_eq) _
  by_cases hcharged : e.Charges kind id
  · obtain ⟨-, rfl, hpositive⟩ := hcharges.1 hcharged
    rw [if_pos hcharged]
    refine ⟨?_, ?_⟩
    · rw [hstatus, Transition.update, if_pos hpositive]
    · rw [hafter]
      exact houtcome.job_of_handsOut hfinish hfail (decide_eq_true hpositive)
  · rw [if_neg hcharged]
    have hstays : change.handsOut budget = false ∧
        (change.update budget message).status = .retry := by
      rcases hmoves with rfl | rfl
      · have hspent : ¬ 0 < budget := fun hpositive => hcharged (hcharges.2 ⟨rfl, rfl, hpositive⟩)
        exact ⟨decide_eq_false hspent, by rw [Transition.update, if_neg hspent]⟩
      · exact ⟨rfl, rfl⟩
    refine ⟨by rw [hstatus, hstays.2], ?_⟩
    rw [hafter, outbox_refreshAoiStatus]
    exact houtcome.outbox_of_stays hfinish hfail hstays.1

/-- A request takes one off the budget of an entity, if it charges it, and touches no other budget. -/
theorem entityBudget?_of_demand (h : Forest e.before) (hd : e.task.demand? = some d) :
    e.after.entityBudget? kind id = (e.before.entityBudget? kind id).map fun budget =>
      if e.Charges kind id then budget - 1 else budget := by
  obtain ⟨message, present, budget, area, hdecides⟩ := decides h hd
  rcases hdecides.effect with
    ⟨-, hrejected, hsame⟩ | ⟨change, hchange, haccepted, s₁, notices, houtcome, hafter⟩
  · have hfree : ¬ e.Charges kind id := fun hcharges => by
      cases hcharges.1.2.symm.trans hrejected
    simp only [if_neg hfree, Option.map_id', hsame]
  · rw [hafter, (sameRows_refreshAoiStatus s₁ area).entityBudget?,
      houtcome.ripples.toShifts.entityBudget?, entityBudget?_moved]
    simp only [Transition.consume_update, charges_iff ⟨hd, haccepted⟩ hdecides hchange]

/-- What requests nothing of a scene or tile leaves all budgets alone, or adds those that were asked
for. -/
theorem entityBudget?_of_no_demand (h : Forest e.before) (hn : e.before.Named)
    (hd : e.task.demand? = none) :
    ∃ added, e.after.entityBudget? kind id = (e.before.entityBudget? kind id).or added ∧
      ∀ budget ∈ added, ∃ r, e.task = .ingest r ∧ budget = r.budget.toInt := by
  obtain ⟨task, before, answer, after, hok⟩ := e
  cases task with
  | ingest r =>
    obtain ⟨-, -, -, -, htakes⟩ := Ingestion.insertScene_cases h.toSchema hn hok
    obtain ⟨added, hafter, hsame⟩ := htakes.entityBudget? kind id
    exact ⟨added, hafter, fun budget hbudget => ⟨r, rfl, hsame budget hbudget⟩⟩
  | updateSceneAttrs k attrs =>
    obtain rfl := Work.exec_updateSceneAttrs_eq_ok hok
    refine ⟨none, ?_, nofun⟩
    rw [Option.or_none]
    exact entityBudget?_modifyScenes fun _ => ⟨rfl, rfl⟩
  | updateTileAttrs k attrs =>
    obtain rfl := Work.exec_updateTileAttrs_eq_ok hok
    refine ⟨none, ?_, nofun⟩
    rw [Option.or_none]
    exact entityBudget?_modifyTiles fun _ => ⟨rfl, rfl⟩
  | changeScene _ _ _ _ | changeTile _ _ _ _ => cases hd

/-- What is there is charged or not. -/
theorem entityBudget?_of_some (h : Forest e.before) (hn : e.before.Named) {budget : Int}
    (hbudget : e.before.entityBudget? kind id = some budget) :
    e.after.entityBudget? kind id =
      some (if e.Charges kind id then budget - 1 else budget) := by
  cases hd : e.task.demand? with
  | some d => rw [entityBudget?_of_demand h hd, hbudget, Option.map_some]
  | none =>
    obtain ⟨added, hafter, -⟩ := entityBudget?_of_no_demand h hn hd
    have hfree : ¬ e.Charges kind id := fun hcharges => by cases hd.symm.trans hcharges.1.1
    rw [hafter, hbudget, Option.some_or, if_neg hfree]

/-- What was not there is not there yet, or has been taken up with the budget that it has. -/
theorem entityBudget?_of_none (h : Forest e.before) (hn : e.before.Named)
    (hnone : e.before.entityBudget? kind id = none) :
    e.after.entityBudget? kind id = none ∨ ∃ budget : Int32, e.Ingests kind id budget ∧
      e.after.entityBudget? kind id = some budget.toInt := by
  cases hd : e.task.demand? with
  | some d =>
    rw [entityBudget?_of_demand h hd, hnone]
    exact .inl rfl
  | none =>
    obtain ⟨added, hafter, hadded⟩ := entityBudget?_of_no_demand h hn hd
    rw [hnone, Option.none_or] at hafter
    cases added with
    | none => exact .inl hafter
    | some budget =>
      obtain ⟨r, htask, rfl⟩ := hadded budget rfl
      refine .inr ⟨r.budget, ⟨⟨r, htask, rfl⟩, entityBudget?_eq_none.1 hnone, ?_⟩, hafter⟩
      rw [Option.isSome_iff_ne_none, Ne, ← entityBudget?_eq_none, hafter]
      nofun

end Entry

/-! ### Journals -/

/-- How one store comes about from another: areas are created, units of work are committed, and jobs
are taken out of the outbox. The journal lists the units of work. -/
inductive Journal (s : Store) : List Entry → Store → Prop where
  | start : Journal s [] s
  | creation {es : List Entry} {s₁ s₂ : Store} {name : String} (h : Journal s es s₁)
      (hok : s₁.createAoi name = .ok s₂) : Journal s es s₂
  | relay {es : List Entry} {s₁ : Store} (h : Journal s es s₁) (ids : List Int) :
      Journal s es (s₁.ackJobs ids)
  | entry {es : List Entry} {e : Entry} (h : Journal s es e.before) : Journal s (es ++ [e]) e.after

namespace Journal
variable {s s₁ s₂ : Store} {es ds : List Entry} {e : Entry}

theorem trans (h₁ : Journal s es s₁) (h₂ : Journal s₁ ds s₂) : Journal s (es ++ ds) s₂ := by
  induction h₂ with
  | start =>
    rw [List.append_nil]
    exact h₁
  | creation _ hok ih => exact .creation ih hok
  | relay _ ids ih => exact .relay ih ids
  | entry _ ih =>
    rw [← List.append_assoc]
    exact .entry ih

theorem single (e : Entry) : Journal e.before [e] e.after :=
  @Journal.entry e.before [] e .start

theorem keeps {I : Store → Prop} (hI : Lasting I) (h : Journal s es s₁) (hs : I s) : I s₁ := by
  induction h with
  | start => exact hs
  | creation _ hok ih => exact hI.creation _ _ _ ih hok
  | relay _ ids ih => exact hI.relay _ ids ih
  | @entry _ e _ ih => exact hI.task e.task _ _ _ ih e.committed

theorem keeps_of_mem {I : Store → Prop} (hI : Lasting I) (h : Journal s es s₁) (hs : I s)
    (he : e ∈ es) : I e.before := by
  induction h with
  | start => cases he
  | creation _ _ ih | relay _ _ ih => exact ih he
  | entry h ih =>
    rcases List.mem_append.1 he with he | he
    · exact ih he
    · rw [List.mem_singleton.1 he]
      exact h.keeps hI hs

/-- The relay commits nothing. -/
theorem flush {σ : Type} [Sink σ] {w : World σ} (h : Journal s es w.store) (batchSize : Int) :
    Journal s es (Outbox.flush batchSize w).2.store :=
  Outbox.kept_flush (I := Journal s es) (fun _ ids h => .relay h ids) batchSize w h

end Journal

/-- The second world comes about from the first by units of work that satisfy a condition. -/
def Journalled {σ : Type} (P : Task → Prop) (w w' : World σ) : Prop :=
  ∃ es, Journal w.store es w'.store ∧ ∀ e ∈ es, P e.task

theorem course_journalled {σ : Type} [Sink σ] (P : Task → Prop) :
    Course (σ := σ) P (Journalled P) where
  still := by
    intro w w' hstore _
    refine ⟨[], ?_, List.forall_mem_nil _⟩
    rw [hstore]
    exact .start
  trans := by
    rintro w₁ w₂ w₃ ⟨es, h₁, hes⟩ ⟨ds, h₂, hds⟩
    exact ⟨es ++ ds, h₁.trans h₂, fun e he => (List.mem_append.1 he).elim (hes e) (hds e)⟩
  creation := fun hok _ => ⟨[], .creation .start hok, List.forall_mem_nil _⟩
  commit := by
    intro w w' task a htask hok _
    exact ⟨_, .single ⟨task, w.store, a, w'.store, hok⟩, List.forall_mem_singleton.2 htask⟩
  relay := fun batchSize w => ⟨[], Journal.start.flush batchSize, List.forall_mem_nil _⟩

theorem journalled_after {σ : Type} [Sink σ] {P : Task → Prop} (w : World σ) {cs : List Command}
    (hcs : ∀ c ∈ cs, c.All P) : Journalled P w (w.after cs) :=
  World.induct_after (I := Journalled P w) ((course_journalled P).still rfl rfl) fun c hc w h =>
    (course_journalled P).trans h ((course_journalled P).relates_run (hcs c hc) w)

/-- A unit of work leaves one entry, or nothing happens. -/
theorem Task.journal_transact {σ : Type} [Sink σ] (operation : String) (task : Task) (w : World σ) :
    (∃ err, (transact operation task.body w).1 = .error err ∧
      (transact operation task.body w).2.store = w.store) ∨
    ∃ a s hok, (transact operation task.body w).1 = .ok a ∧
      SameRows s (transact operation task.body w).2.store ∧
      Journal w.store [⟨task, w.store, a, s, hok⟩] (transact operation task.body w).2.store := by
  rcases task.transact_cases operation w with
    ⟨err, herror, hstore, -⟩ | ⟨a, w₁, hbody, -, hresult, hworld⟩
  · exact .inl ⟨err, herror, hstore⟩
  · refine .inr ⟨a, w₁.store, hbody, hresult, ?_⟩
    rw [hworld]
    have hentry := Journal.single ⟨task, w.store, a, w₁.store, hbody⟩
    exact ⟨Outbox.sameRows_flush w₁.batchSize w₁, hentry.flush w₁.batchSize⟩

theorem journal_updateStatus {σ : Type} [Sink σ] (w : World σ) (kind : EntityKind) (id : Int)
    (requested : Status) (message : Option String) (force : Bool) :
    (∃ err, (updateStatus kind id requested message force w).1 = .error err ∧
      (updateStatus kind id requested message force w).2.store = w.store) ∨
    ∃ e : Entry, e.task = .change kind id requested message force ∧ e.before = w.store ∧
      (updateStatus kind id requested message force w).1 = .ok (e.task.isAccepted e.answer) ∧
      SameRows e.after (updateStatus kind id requested message force w).2.store ∧
      Journal w.store [e] (updateStatus kind id requested message force w).2.store := by
  cases kind with
  | scene =>
    rcases Task.journal_transact "update_scene_status" (.changeScene id requested message force) w with
      hfails | ⟨a, s, hok, hresult, hrows, hjournal⟩
    · exact .inl hfails
    · exact .inr ⟨⟨_, w.store, a, s, hok⟩, rfl, rfl, hresult, hrows, hjournal⟩
  | tile =>
    rcases Task.journal_transact "update_tile_status" (.changeTile id requested message force) w with
      hfails | ⟨a, s, hok, hresult, hrows, hjournal⟩
    · exact .inl hfails
    · exact .inr ⟨⟨_, w.store, a, s, hok⟩, rfl, rfl, hresult, hrows, hjournal⟩

end SceneWorkflow
