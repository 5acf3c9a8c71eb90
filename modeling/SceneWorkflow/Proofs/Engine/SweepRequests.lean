import SceneWorkflow.Proofs.Engine.Refusals
import SceneWorkflow.Proofs.UnitOfWork.Calm

/-!
# The requests of a sweep

A request of a sweep that nothing disturbs hands out a scene or tile again and queues one
job for it, or it is refused and leaves everything as it is. Requests for many, one
after the other, hand out those that are not refused.
-/
namespace SceneWorkflow
open Store

/-- A scene or tile is handed out again, and one job is queued, for it. -/
structure Store.HandsOut (e : EntityKind × Int) (s s' : Store) : Prop where
  entities : s'.entities = (s.requeue [e]).entities
  job : ∃ n : Notice, n.subject = (e.1.topic, e.2) ∧ s.Posts [n] s' ∧ s'.Carries n

/-! ### One request -/

namespace Cascade
variable {s s' : Store} {kind : EntityKind} {id : Int} {force : Bool} {t : Tile} {x : Scene}
  {message : Option String} {status : Status}

theorem exec_requirePreviousDone_eq (h : Forest s) (ht : t ∈ s.tiles) :
    (requirePreviousDone t).exec s =
      match s.previousObstacle? t with
      | some reason => .error (notRequeued t reason)
      | none => .ok ((), s) := by
  have hprevious := h.previous_exists t ht
  unfold requirePreviousDone previousObstacle?
  cases hlink : t.previous with
  | none => rfl
  | some id =>
    rw [hlink, hasLinked_some] at hprevious
    obtain ⟨p, hp⟩ := Option.isSome_iff_exists.1 hprevious
    obtain rfl := tile?_id hp
    dsimp only
    rw [Work.exec_bind_ok (Work.exec_tile h.toLegible hp), Option.bind_some, hp, Option.bind_some]
    split <;> rfl

/-- A tile is handed out again, or something keeps it from that. -/
theorem exec_requeueTile_eq (h : Forest s) (hf : s.tile? t.id = some t)
    (hx : s.scene? t.scene = some x) :
    (requeueTile t x.status message force).exec s =
      match s.obstacle? force t with
      | some reason => .error (notRequeued t reason)
      | none => .ok ((), (s.setTile t.id { status := .pending, message }).announceTile t) := by
  have hl := h.toLegible.setTile (u := { status := .pending, message }) h.toOrdered hf nofun
  unfold requeueTile obstacle?
  rw [Work.exec_bind, exec_requirePreviousDone_eq h (mem_of_tile? hf), hx, Option.bind_some]
  cases s.previousObstacle? t with
  | some reason => rfl
  | none =>
    rw [Option.none_or]
    show (if _ then _ else _ : Work Unit).exec s = _
    cases force with
    | true => exact exec_handOut_eq hl h.toSchema hf rfl
    | false =>
      by_cases hdone : x.status = .done
      · rw [hdone]
        exact exec_handOut_eq hl h.toSchema hf rfl
      · have hnot : (false || x.status == .done) = false := beq_eq_false_iff_ne.2 hdone
        rw [hnot, if_neg hdone]
        rfl

theorem exec_change_requeue (h : Forest s) (hstatus : s.entityStatus? kind id = some status)
    (hchange : status.transition .pending force = some .requeue) (message : Option String) :
    (∃ e, s.refusal? force kind id = some e ∧
      (change kind id .pending message force).exec s = .error e) ∨
    s.refusal? force kind id = none ∧
      ∃ s', (change kind id .pending message force).exec s = .ok (true, s') := by
  cases kind with
  | scene =>
    obtain ⟨x, hx, rfl⟩ := Option.map_eq_some_iff.1 hstatus
    obtain rfl := scene?_id hx
    refine .inr ⟨rfl, ?_⟩
    rw [change, changeScene, Work.exec_bind_ok (Work.exec_scene h.toLegible hx), hchange]
    dsimp only
    rw [applyToScene, requeueScene, Work.exec_bind_ok (exec_handOutScene_eq hx _)]
    exact ⟨_, rfl⟩
  | tile =>
    obtain ⟨t, ht, rfl⟩ := Option.map_eq_some_iff.1 hstatus
    obtain rfl := tile?_id ht
    obtain ⟨x, hx⟩ := Option.isSome_iff_exists.1 (h.scene_exists t (mem_of_tile? ht))
    rw [change, changeTile, Work.exec_bind_ok (Work.exec_tile h.toLegible ht),
      Work.exec_bind_ok (Work.exec_known h.toLegible hx), hchange, refusal?, ht, Option.bind_some]
    dsimp only
    have hexec : (requeueTile t x.note.status message force).exec s = _ :=
      exec_requeueTile_eq h ht hx
    rw [applyToTile, Work.exec_bind, hexec]
    cases s.obstacle? force t with
    | some reason => exact .inl ⟨_, rfl, rfl⟩
    | none => exact .inr ⟨rfl, _, rfl⟩

end Cascade

theorem Status.transition_of_isRetryable {status : Status} {force : Bool}
    (h : Sweep.isRetryable force status = true) :
    status.transition .pending force = some .requeue := by
  cases force <;> cases status <;> first | rfl | cases h

section
variable {s s' : Store} {kind : EntityKind} {id : Int} {force : Bool} {budget : Int} {area : String}
  {notices : List Notice}

/-- An entity that is queued again is handed out, and that is all. -/
theorem Store.Outcome.handsOut
    (h : Outcome kind id .requeue budget (some "") area s s' notices) :
    HandsOut (kind, id) s (s'.refreshAoiStatus area).2 where
  entities := by
    have hsame := sameRows_refreshAoiStatus s' area
    rw [entities, hsame.scenes, hsame.tiles, h.ripples.scenes, h.quiet nofun nofun, requeue_eq_moved]
    rfl
  job := h.job_of_handsOut nofun nofun rfl

end

namespace Sweep
variable {σ : Type} [Sink σ] {w : World σ} {kind : EntityKind} {id : Int} {force : Bool}
  {status : Status}

/-- A sweep by itself hands out a scene or tile again, or nothing happens and it notes what keeps it
from that. -/
theorem requeue_of_calm (h : Attainable w.store) (hw : w.Calm)
    (hstatus : w.store.entityStatus? kind id = some status)
    (hretryable : isRetryable force status = true) :
    (∃ e, w.store.refusal? force kind id = some e ∧
      (takeStep (.requeue kind id force) w).1 = .error e ∧
      (takeStep (.requeue kind id force) w).2.store = w.store ∧
      (takeStep (.requeue kind id force) w).2.sink = w.sink) ∨
    w.store.refusal? force kind id = none ∧
      (takeStep (.requeue kind id force) w).1 = .ok true ∧
      ∃ committed, HandsOut (kind, id) w.store committed ∧
        Commits w committed (takeStep (.requeue kind id force) w).2 := by
  have hanswer : (updateStatus kind id .pending (some "") force w).1 = _ :=
    (updateStatus_of_meets nofun hw.meets).eq
  have hrequeue := Status.transition_of_isRetryable hretryable
  rcases Cascade.exec_change_requeue h.forest hstatus hrequeue (some "") with
    ⟨e, hrefusal, hexec⟩ | ⟨hfree, s', hexec⟩
  · rw [hexec] at hanswer
    have hnothing : (takeStep (.requeue kind id force) w).2.store = w.store ∧
        (takeStep (.requeue kind id force) w).2.sink = w.sink := by
      cases kind with
      | scene =>
        exact (h.all_or_nothing (.updateSceneStatus id .pending (some "") force)).nothing e hanswer
      | tile =>
        exact (h.all_or_nothing (.updateTileStatus id .pending (some "") force)).nothing e hanswer
    exact .inl ⟨e, hrefusal, hanswer, hnothing⟩
  · rw [hexec] at hanswer
    obtain ⟨committed, hcommitted, hcommits⟩ := updateStatus_commits h.queued hanswer
    refine .inr ⟨hfree, hanswer, committed, ?_, hcommits⟩
    obtain ⟨present, budget, area, hdecides⟩ := Cascade.decides_change h.forest hcommitted
    rcases hdecides.effect with ⟨-, hrejected, -⟩ | ⟨change, hchange, -, s₁, notices, houtcome, rfl⟩
    · cases hrejected
    · obtain rfl := Status.eq_requeue_of_pending hchange
      exact houtcome.handsOut

end Sweep

/-! ### One request after the other -/

theorem Series.entities {σ : Type} [Sink σ] {w w' : World σ} {es : List (EntityKind × Int)}
    (h : Series HandsOut w es w') : w'.store.entities = (w.store.requeue es).entities := by
  induction h with
  | still hstore _ => rw [hstore, requeue_nil]
  | @step w w₁ w₂ w' e es committed hstore _ hstep hcommits _ ih =>
    obtain ⟨rest, -, hleft⟩ := hcommits.left
    have hrows : w₂.store.entities = committed.entities := by
      rw [hleft]
      rfl
    rw [ih, requeue_congr (hrows.trans hstep.entities), hstore, requeue_requeue]
    rfl

namespace Sweep
variable {σ : Type} [Sink σ] {w : World σ} {kind : EntityKind} {force : Bool}

/-- How many entities have been handed out again by now, and what kept the first other one from
that. -/
def Tally.after (tally : Tally) (kind : EntityKind) (n : Nat) (failure : Option Error) : Tally where
  scenes := if kind = .scene then tally.scenes + n else tally.scenes
  tiles := if kind = .tile then tally.tiles + n else tally.tiles
  failure := tally.failure.or failure

theorem Tally.note_after (tally : Tally) (e : Error) (kind : EntityKind) (n : Nat)
    (failure : Option Error) :
    (tally.note e).after kind n failure = tally.after kind n ((some e).or failure) := by
  unfold Tally.note Tally.after
  rw [Option.or_assoc]

theorem Tally.add_after (tally : Tally) (kind : EntityKind) (n : Nat) (failure : Option Error) :
    (tally.add kind).after kind n failure = tally.after kind (n + 1) failure := by
  cases kind <;> simp [Tally.add, Tally.after, Nat.add_assoc, Nat.add_comm 1 n]

theorem calm_takeStep (hw : w.Calm) (i : Step) : (takeStep i w).2.Calm := by
  have hcalm : StaysMeeting (· = none) w (takeStep i w).2 := by
    cases i with
    | findAoi _ | listScenes _ | listTiles _ => exact StaysMeeting.within_invoke nofun _ _ w
    | requeue kind id force => exact StaysMeeting.within_updateStatus nofun kind id _ _ _ w
  exact (hcalm hw.meets).calm

theorem attainable_takeStep (h : Attainable w.store) (i : Step) :
    Attainable (takeStep i w).2.store := by
  rcases store_takeStep i w with ⟨kind, id, force, rfl⟩ | ⟨-, hstore⟩
  · exact h.run (.command (.updateStatus kind id .pending (some "") force))
  · rwa [hstore]

/-- A sweep by itself hands out again all entities that nothing keeps from it, in turn. -/
theorem carryOut_requeueAll (h : Attainable w.store) (hw : w.Calm) {ids : List Int}
    (hnodup : ids.Nodup)
    (htaken : ∀ id ∈ ids, ∃ status, w.store.entityStatus? kind id = some status ∧
      isRetryable force status = true) (tally : Tally) :
    (carryOut (requeueAll kind force ids tally) w).1 =
        .ok (tally.after kind (ids.filter (w.store.isFree force kind)).length
          (w.store.firstRefusal? force kind ids)) ∧
      Series HandsOut w
        ((ids.filter (w.store.isFree force kind)).map (kind, ·))
        (carryOut (requeueAll kind force ids tally) w).2 ∧
      (carryOut (requeueAll kind force ids tally) w).2.Calm ∧
      Attainable (carryOut (requeueAll kind force ids tally) w).2.store := by
  induction ids generalizing w tally with
  | nil =>
    have hsame : tally.after kind 0 none = tally := by
      cases tally
      simp [Tally.after]
    refine ⟨congrArg Except.ok hsame.symm, .still rfl rfl, hw, h⟩
  | cons id rest ih =>
    obtain ⟨hid, hrest⟩ := List.nodup_cons.1 hnodup
    obtain ⟨⟨status, hstatus, hretryable⟩, htaken⟩ := List.forall_mem_cons.1 htaken
    have hcalm := calm_takeStep hw (.requeue kind id force)
    have hattain := attainable_takeStep h (.requeue kind id force)
    rw [requeueAll, carryOut_attempt_bind]
    rcases requeue_of_calm h hw hstatus hretryable with
      ⟨e, hrefusal, herror, hstore, hsink⟩ | ⟨hfree, hok, committed, hhandsOut, hcommits⟩
    · rw [herror]
      dsimp only
      rw [not_isCancelled_of_refusal? hrefusal, if_neg Bool.false_ne_true]
      obtain ⟨hanswer, hseries, hend⟩ := ih hattain hcalm hrest (hstore ▸ htaken) (tally.note e)
      rw [hstore] at hanswer hseries
      have hpassed : ¬ w.store.isFree force kind id = true := by
        rw [isFree, hrefusal]
        exact Bool.false_ne_true
      rw [List.filter_cons_of_neg hpassed, firstRefusal?, hrefusal]
      refine ⟨hanswer.trans (congrArg Except.ok ?_), hseries.after_still hstore hsink, hend⟩
      exact (tally.note_after e kind _ _).trans rfl
    · rw [hok]
      dsimp only
      generalize (takeStep (.requeue kind id force) w).2 = w₁ at hattain hcalm hcommits ⊢
      have hrows : w₁.store.entities = (w.store.requeue [(kind, id)]).entities := by
        obtain ⟨out, -, hleft⟩ := hcommits.left
        rw [← hhandsOut.entities, hleft]
        rfl
      have hundone : w.store.Undone [(kind, id)] :=
        undone_of_isRetryable force fun e he => List.mem_singleton.1 he ▸ ⟨status, hstatus, hretryable⟩
      have hstays (k : Int) (hk : k ∈ rest) :
          w₁.store.entityStatus? kind k = w.store.entityStatus? kind k :=
        entityStatus?_of_requeued hrows fun hsame => hid (hsame ▸ hk)
      have hsame : w₁.store.isFree force kind = w.store.isFree force kind := by
        rw [isFree_congr hrows, hundone.isFree]
      obtain ⟨hanswer, hseries, hend⟩ := ih hattain hcalm hrest
        (fun k hk => by rw [hstays k hk]; exact htaken k hk) (tally.add kind)
      rw [hsame, firstRefusal?_congr hrows, Tally.add_after] at hanswer
      rw [hsame] at hseries
      have htakes : w.store.isFree force kind id = true := Option.isNone_iff_eq_none.2 hfree
      rw [List.filter_cons_of_pos htakes, firstRefusal?, hfree, Option.none_or, List.length_cons]
      exact ⟨hanswer, .step rfl rfl hhandsOut hcommits hseries, hend⟩

end Sweep

end SceneWorkflow
