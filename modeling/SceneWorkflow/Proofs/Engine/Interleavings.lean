import SceneWorkflow.Proofs.Engine.Endings

/-!
# Sweeps among other operations

A sweep reads what there is to retry and requests it later, entity by entity, so that
others may come between. A step of the sweep hands out again what it has seen handed
out, even if someone has finished it meanwhile; it leaves alone all that nobody has
moved since.
-/
namespace SceneWorkflow
open Store

/-- Work on a scene or tile has been handed out and not finished. -/
def Store.IsOut (s : Store) (kind : EntityKind) (id : Int) : Prop :=
  (s.entityStatus? kind id).any Status.isActive = true

instance (s : Store) (kind : EntityKind) (id : Int) : Decidable (s.IsOut kind id) :=
  inferInstanceAs (Decidable (_ = true))

theorem Store.isOut_iff {s : Store} {kind : EntityKind} {id : Int} :
    s.IsOut kind id ↔ ∃ status, s.entityStatus? kind id = some status ∧ status.isActive = true :=
  Option.any_eq_true _ _

theorem Store.not_isOut {s : Store} {kind : EntityKind} {id : Int} {status : Status}
    (hstatus : s.entityStatus? kind id = some status) (hrest : status.isActive = false) :
    ¬ s.IsOut kind id := by
  rw [isOut_iff]
  rintro ⟨present, hpresent, hactive⟩
  cases hstatus.symm.trans hpresent
  cases hrest.symm.trans hactive

theorem Status.eq_requeue_of_pending {present : Status} {force : Bool} {change : Transition}
    (h : present.transition .pending force = some change) : change = .requeue := by
  cases force <;> cases present <;> cases h <;> rfl

/-- A request to queue an entity again moves that entity, if it is accepted, and nothing else. -/
theorem requeue_cases {σ : Type} [Sink σ] {w : World σ} (h : Forest w.store) (kind : EntityKind)
    (id : Int) (message : Option String) (force : Bool) :
    ((updateStatus kind id .pending message force w).1 = .ok true ∧
      (updateStatus kind id .pending message force w).2.store.entityStatus? kind id =
        some .pending ∧
      ∀ kind' k, (kind, id) ≠ (kind', k) →
        (updateStatus kind id .pending message force w).2.store.entityStatus? kind' k =
          w.store.entityStatus? kind' k) ∨
    ((updateStatus kind id .pending message force w).1 ≠ .ok true ∧
      ∀ kind' k, (updateStatus kind id .pending message force w).2.store.entityStatus? kind' k =
        w.store.entityStatus? kind' k) := by
  rcases updateStatus_rows kind id .pending message force w with
    ⟨e, herror, hstore⟩ | ⟨accepted, s, hexec, hresult, hsame⟩
  · rw [herror, hstore]
    exact .inr ⟨nofun, fun _ _ => rfl⟩
  obtain ⟨present, budget, area, hdecides⟩ := Cascade.decides_change h hexec
  rcases hdecides.effect with
    ⟨-, rfl, rfl⟩ | ⟨change, hchange, rfl, s₁, notices, houtcome, rfl⟩
  · rw [hresult]
    exact .inr ⟨nofun, fun kind' k => hsame.entityStatus? kind' k⟩
  · obtain rfl := Status.eq_requeue_of_pending hchange
    have hrow (kind' : EntityKind) (k : Int) :=
      (((sameRows_refreshAoiStatus s₁ area).trans hsame).entityStatus? kind' k).trans
        (houtcome.entityStatus?_of_quiet nofun nofun kind' k)
    have hthere : (w.store.entityStatus? kind id).isSome := by
      rw [hdecides.present_eq]
      rfl
    refine .inl ⟨hresult, (hrow kind id).trans (entityStatus?_moved hthere _), ?_⟩
    exact fun kind' k hne => (hrow kind' k).trans (entityStatus?_moved_of_ne hne)

namespace Sweep
variable {σ : Type} [Sink σ]

structure Progress (σ : Type) where
  left : Plan (Except Error Tally)
  world : World σ

inductive Moment (σ : Type) where
  /-- The sweep takes its next step. -/
  | step
  /-- Someone else does something. -/
  | other (x : Activity σ)
  /-- What surrounds the store changes. -/
  | disturb (sink : σ) (faults : Faults) (cancelled : Bool) (batchSize : Int)

namespace Progress

def advance (p : Progress σ) : Progress σ :=
  match p.left with
  | .done _ => p
  | .step i next => { left := next (takeStep i p.world).1, world := (takeStep i p.world).2 }

def pass (p : Progress σ) : Moment σ → Progress σ
  | .step => p.advance
  | .other x => { p with world := x.run p.world }
  | .disturb sink faults cancelled batchSize =>
    { p with world := { store := p.world.store, sink, faults, cancelled, batchSize } }

def after (p : Progress σ) (ms : List (Moment σ)) : Progress σ := ms.foldl pass p

theorem after_append (p : Progress σ) (ms ns : List (Moment σ)) :
    p.after (ms ++ ns) = (p.after ms).after ns := List.foldl_append

theorem after_step (p : Progress σ) (seen since : List (Moment σ)) :
    p.after (seen ++ .step :: since) = (p.after seen).advance.after since :=
  p.after_append seen (.step :: since)

variable {p : Progress σ} {kind : EntityKind} {id : Int} {force : Bool}

theorem advance_of_step {i : Step} {next : Except Error i.Answer → Plan (Except Error Tally)}
    (h : p.left = .step i next) :
    p.advance = { left := next (takeStep i p.world).1, world := (takeStep i p.world).2 } := by
  rw [advance, h]

theorem advance_of_done {result : Except Error Tally} (h : p.left = .done result) :
    p.advance = p := by
  rw [advance, h]

/-- The next step of the sweep requests an entity to be queued again, and the request is accepted. -/
def Requeues (p : Progress σ) (kind : EntityKind) (id : Int) (force : Bool) : Prop :=
  ∃ next, p.left = .step (.requeue kind id force) next ∧
    (takeStep (.requeue kind id force) p.world).1 = .ok true

/-- A step of the sweep moves only what it requests, and only to hand it out again. -/
theorem advance_cases (h : Forest p.world.store) (kind : EntityKind) (id : Int) :
    ((∀ force, ¬ p.Requeues kind id force) ∧
      p.advance.world.store.entityStatus? kind id = p.world.store.entityStatus? kind id) ∨
    ∃ force, p.Requeues kind id force ∧
      p.advance.world.store.entityStatus? kind id = some .pending := by
  cases hleft : p.left with
  | done result =>
    rw [advance_of_done hleft]
    refine .inl ⟨?_, rfl⟩
    rintro force ⟨next, hstep, -⟩
    cases hleft.symm.trans hstep
  | step i next =>
    rw [advance_of_step hleft]
    rcases store_takeStep i p.world with ⟨kind', k, force, rfl⟩ | ⟨hread, hstore⟩
    · rcases requeue_cases h kind' k (some "") force with
        ⟨haccepted, hpending, hothers⟩ | ⟨hrefused, hsame⟩
      · by_cases hentity : (kind', k) = (kind, id)
        · cases hentity
          exact .inr ⟨force, ⟨next, hleft, haccepted⟩, hpending⟩
        · refine .inl ⟨?_, hothers kind id hentity⟩
          rintro force' ⟨next', hstep, -⟩
          cases hleft.symm.trans hstep
          exact hentity rfl
      · refine .inl ⟨?_, hsame kind id⟩
        rintro force' ⟨next', hstep, haccepted⟩
        cases hleft.symm.trans hstep
        exact hrefused haccepted
    · refine .inl ⟨?_, congrArg (Store.entityStatus? · kind id) hstore⟩
      rintro force ⟨next', hstep, -⟩
      cases hleft.symm.trans hstep
      exact hread kind id force rfl

/-- What is handed out stays so while the sweep takes a step. -/
theorem isOut_advance (h : Forest p.world.store) (hout : p.world.store.IsOut kind id) :
    p.advance.world.store.IsOut kind id := by
  rcases advance_cases h kind id with ⟨-, hsame⟩ | ⟨force, -, hpending⟩
  · unfold Store.IsOut
    rwa [hsame]
  · exact isOut_iff.2 ⟨.pending, hpending, rfl⟩

/-! ### The course of an interleaving -/

theorem attainable_pass (h : Attainable p.world.store) (m : Moment σ) :
    Attainable (p.pass m).world.store := by
  cases m with
  | step =>
    show Attainable p.advance.world.store
    cases hleft : p.left with
    | done result => rwa [advance_of_done hleft]
    | step i next =>
      rw [advance_of_step hleft]
      rcases store_takeStep i p.world with ⟨kind, id, force, rfl⟩ | ⟨-, hstore⟩
      · exact h.run (.command (.updateStatus kind id .pending (some "") force))
      · show Attainable (takeStep i p.world).2.store
        rwa [hstore]
  | other x => exact h.run x
  | disturb sink faults cancelled batchSize => exact h

theorem attainable_after (h : Attainable p.world.store) (ms : List (Moment σ)) :
    Attainable (p.after ms).world.store := by
  induction ms generalizing p with
  | nil => exact h
  | cons m ms ih => exact ih (attainable_pass h m)

/-- Someone else has ended what was handed out, if it has been ended at all. -/
theorem exists_other (h : Attainable p.world.store) {ms : List (Moment σ)}
    (hout : p.world.store.IsOut kind id) (hnot : ¬ (p.after ms).world.store.IsOut kind id) :
    ∃ since x rest, ms = since ++ .other x :: rest ∧
      (p.after since).world.store.IsOut kind id ∧
      ¬ (p.after (since ++ [.other x])).world.store.IsOut kind id := by
  induction ms generalizing p with
  | nil => exact absurd hout hnot
  | cons m ms ih =>
    by_cases hstays : (p.pass m).world.store.IsOut kind id
    · obtain ⟨since, x, rest, rfl, hbefore, hafter⟩ := ih (attainable_pass h m) hstays hnot
      exact ⟨m :: since, x, rest, rfl, hbefore, hafter⟩
    · cases m with
      | step => exact absurd (isOut_advance h.forest hout) hstays
      | other x => exact ⟨[], x, ms, rfl, hout, hstays⟩
      | disturb sink faults cancelled batchSize => exact absurd hout hstays

/-- A listing of the sweep shows an entity, which the sweep takes up. -/
def Shows (p : Progress σ) (force : Bool) (kind : EntityKind) (id : Int) : Prop :=
  ∃ i next, p.left = .step i next ∧ (kind, id) ∈ i.shows force (takeStep i p.world).1

/-- What is shown has been handed out, and the listing leaves it so. -/
theorem Shows.isOut (h : p.Shows force kind id) (hs : Forest p.world.store) :
    p.advance.world.store.IsOut kind id := by
  obtain ⟨i, next, -, hshown⟩ := h
  obtain ⟨status, hstatus, hretryable⟩ := isRetryable_of_shows hs.toOrdered hshown
  exact isOut_advance hs
    (isOut_iff.2 ⟨status, hstatus, Status.isActive_of_isRetryable hretryable⟩)

/-- All that a sweep knows on its way it has been shown on its way, unless it knew it before. -/
theorem heeds_after {known : List (EntityKind × Int)}
    {post : List (EntityKind × Int) → Except Error Tally → Prop}
    (hp : Heeds force known p.left post) (ms : List (Moment σ)) :
    ∃ ks, Heeds force ks (p.after ms).left post ∧ ∀ kind id, (kind, id) ∈ ks →
      (kind, id) ∈ known ∨
        ∃ seen since, ms = seen ++ .step :: since ∧ (p.after seen).Shows force kind id := by
  induction ms generalizing p known with
  | nil => exact ⟨known, hp, fun _ _ hknown => .inl hknown⟩
  | cons m ms ih =>
    -- Only a step of the sweep can show it something.
    have hpass : ∃ more, Heeds force more (p.pass m).left post ∧ ∀ kind id, (kind, id) ∈ more →
        (kind, id) ∈ known ∨ m = .step ∧ p.Shows force kind id := by
      cases m with
      | step =>
        show ∃ more, Heeds force more p.advance.left post ∧ _
        cases hleft : p.left with
        | done result =>
          rw [advance_of_done hleft]
          exact ⟨known, hp, fun _ _ hknown => .inl hknown⟩
        | step i next =>
          rw [advance_of_step hleft]
          rw [hleft] at hp
          refine ⟨_, hp.2 _, fun kind id hmore => ?_⟩
          exact (List.mem_append.1 hmore).imp_right fun hshown => ⟨rfl, i, next, hleft, hshown⟩
      | other x => exact ⟨known, hp, fun _ _ hknown => .inl hknown⟩
      | disturb sink faults cancelled batchSize =>
        exact ⟨known, hp, fun _ _ hknown => .inl hknown⟩
    obtain ⟨more, hmore, hnews⟩ := hpass
    obtain ⟨ks, hks, hshown⟩ := ih hmore
    refine ⟨ks, hks, fun kind id hknown => ?_⟩
    rcases hshown kind id hknown with hbefore | ⟨seen, since, rfl, hshows⟩
    · rcases hnews kind id hbefore with hbefore | ⟨rfl, hshows⟩
      · exact .inl hbefore
      · exact .inr ⟨[], ms, rfl, hshows⟩
    · exact .inr ⟨m :: seen, since, rfl, hshows⟩

end Progress

def start (aoi : String) (force : Bool) (w : World σ) : Progress σ where
  left := (plan aoi force).run
  world := w

/-- Left to itself, a plan comes to an end after some steps, as if it were carried out at once. -/
theorem exists_steps (p : Progress σ) : ∃ n result,
    (p.left.interpret tryStep p.world).1 = .ok result ∧
      p.after (List.replicate n .step) =
        { left := .done result, world := (p.left.interpret tryStep p.world).2 } := by
  obtain ⟨left, w⟩ := p
  induction left generalizing w with
  | done result => exact ⟨0, result, rfl, rfl⟩
  | step i next ih =>
    obtain ⟨n, result, hresult, hafter⟩ := ih (takeStep i w).1 (takeStep i w).2
    exact ⟨n + 1, result, hresult, hafter⟩

/-- Taken without a break, the steps of a sweep are the whole sweep. -/
theorem retryAoi_steps (aoi : String) (force : Bool) (w : World σ) : ∃ n,
    (start aoi force w).after (List.replicate n .step) =
      { left := .done (retryAoi aoi force w).1, world := (retryAoi aoi force w).2 } := by
  obtain ⟨n, result, hresult, hafter⟩ := exists_steps (start aoi force w)
  refine ⟨n, hafter.trans ?_⟩
  have hwhole : retryAoi aoi force w =
      Operation.give result ((plan aoi force).run.interpret tryStep w).2 :=
    Operation.bind_of_ok (f := Operation.give) hresult
  rw [hwhole]
  rfl

/-- Someone else has ended an entity after a listing of the sweep had shown it. -/
def Overtaken (p : Progress σ) (ms : List (Moment σ)) (kind : EntityKind) (id : Int) : Prop :=
  ∃ seen since x rest, ms = seen ++ .step :: (since ++ .other x :: rest) ∧
    (p.after seen).Shows true kind id ∧
    (p.after (seen ++ .step :: since)).world.store.IsOut kind id ∧
    ¬ (p.after (seen ++ .step :: (since ++ [.other x]))).world.store.IsOut kind id

/-- What a sweep knows of and is not handed out any more has been ended by someone else. -/
theorem overtaken_of_known {p : Progress σ} {ms seen since : List (Moment σ)} {kind : EntityKind}
    {id : Int} (h : Attainable p.world.store) (hms : ms = seen ++ .step :: since)
    (hshows : (p.after seen).Shows true kind id)
    (hnot : ¬ (p.after ms).world.store.IsOut kind id) : Overtaken p ms kind id := by
  have hattain := Progress.attainable_after h seen
  have hout := hshows.isOut hattain.forest
  rw [hms, Progress.after_step] at hnot
  obtain ⟨since, x, rest, rfl, hbefore, hafter⟩ :=
    Progress.exists_other (Progress.attainable_pass hattain .step) hout hnot
  refine ⟨seen, since, x, rest, hms, hshows, ?_, ?_⟩
  · rw [Progress.after_step]
    exact hbefore
  · rw [Progress.after_step]
    exact hafter

end Sweep

open Sweep

/-- Whatever others do between the steps of a forced sweep, its next step moves an entity that is not
handed out exactly if it requests that entity and the request is accepted. It is then handed out
again. This happens only to what a listing of the sweep has shown, and someone else has ended
since. -/
theorem Attainable.sweep_overrides {σ : Type} [Sink σ] {w : World σ} (h : Attainable w.store)
    (aoi : String) (ms : List (Moment σ)) {kind : EntityKind} {id : Int} {status : Status}
    (hstatus : ((start aoi true w).after ms).world.store.entityStatus? kind id = some status)
    (hrest : status.isActive = false) :
    (((start aoi true w).after ms).advance.world.store.entityStatus? kind id ≠ some status ↔
      ((start aoi true w).after ms).Requeues kind id true) ∧
    (((start aoi true w).after ms).advance.world.store.entityStatus? kind id ≠ some status →
      ((start aoi true w).after ms).advance.world.store.entityStatus? kind id = some .pending ∧
      Overtaken (start aoi true w) ms kind id) := by
  have hbegin : Attainable (start aoi true w).world.store := h
  have hattain := Progress.attainable_after hbegin ms
  obtain ⟨known, hheeds, hknown⟩ :=
    Progress.heeds_after (p := start aoi true w) (minds_plan aoi true) ms
  have hnot := not_isOut hstatus hrest
  -- All requests of the sweep are forced, and for what it knows.
  have hforced {force : Bool} (hrequeues : ((start aoi true w).after ms).Requeues kind id force) :
      force = true ∧ (kind, id) ∈ known := by
    obtain ⟨next, hleft, -⟩ := hrequeues
    rw [hleft] at hheeds
    exact hheeds.1
  rcases Progress.advance_cases hattain.forest kind id with
    ⟨hnone, hsame⟩ | ⟨force, hrequeues, hpending⟩
  · rw [hsame]
    refine ⟨⟨fun hmoved => absurd hstatus hmoved, fun hrequeues => absurd hrequeues (hnone true)⟩,
      fun hmoved => absurd hstatus hmoved⟩
  · obtain ⟨rfl, hmem⟩ := hforced hrequeues
    have hmoved : ((start aoi true w).after ms).advance.world.store.entityStatus? kind id ≠
        some status := by
      rw [hpending]
      intro heq
      cases heq
      cases hrest
    refine ⟨⟨fun _ => hrequeues, fun _ => hmoved⟩, fun _ => ⟨hpending, ?_⟩⟩
    obtain hnothing | ⟨seen, since, hms, hshows⟩ := hknown kind id hmem
    · cases hnothing
    · exact overtaken_of_known hbegin hms hshows hnot

/-- A worker finishes a tile between the listing of a sweep that shows it and the request for it. -/
def finishedMeanwhile : List (Moment Recorder) :=
  [.step, .step, .step, .other (.command (.handleResult ⟨.tile, 1, .done, ""⟩))]

theorem sweep_overrides_finishedMeanwhile :
    Attainable underway.store ∧
      ((start "north" true underway).after finishedMeanwhile).world.store.entityStatus? .tile 1 =
        some .done ∧
      ((start "north" true underway).after finishedMeanwhile).Requeues .tile 1 true ∧
      ((start "north" true underway).after finishedMeanwhile).advance.world.store.entityStatus?
        .tile 1 = some .pending ∧
      Overtaken (start "north" true underway) finishedMeanwhile .tile 1 := by
  have hattain : Attainable underway.store := (Attainable.empty.after _).after _
  have hdone : ((start "north" true underway).after
      finishedMeanwhile).world.store.entityStatus? .tile 1 = some .done := by decide +kernel
  have hmoved : ((start "north" true underway).after
      finishedMeanwhile).advance.world.store.entityStatus? .tile 1 ≠ some .done := by decide +kernel
  obtain ⟨hrequeues, hovertaken⟩ := hattain.sweep_overrides "north" finishedMeanwhile hdone rfl
  exact ⟨hattain, hdone, hrequeues.1 hmoved, hovertaken hmoved⟩

/-- The sweep may hand out again what is done. -/
theorem finished_tile_may_be_swept :
    ¬ ∀ w : World Recorder, Reachable w.store →
      ∀ (aoi : String) (ms : List (Moment Recorder)) (kind : EntityKind) (id : Int) (status : Status),
        ((start aoi true w).after ms).world.store.entityStatus? kind id = some status →
        status.isActive = false →
        ((start aoi true w).after ms).advance.world.store.entityStatus? kind id = some status := by
  intro hall
  have hawaited : Reachable awaited.store := Reachable.empty.after (by decide)
  have hreach : Reachable underway.store := hawaited.after (by decide)
  have hdone : ((start "north" true underway).after
      finishedMeanwhile).world.store.entityStatus? .tile 1 = some .done := by decide +kernel
  have hmoved : ((start "north" true underway).after
      finishedMeanwhile).advance.world.store.entityStatus? .tile 1 ≠ some .done := by decide +kernel
  exact hmoved (hall underway hreach "north" finishedMeanwhile .tile 1 .done hdone rfl)

end SceneWorkflow
