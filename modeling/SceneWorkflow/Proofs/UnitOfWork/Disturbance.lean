import SceneWorkflow.UnitOfWork
import SceneWorkflow.Proofs.UnitOfWork.Notes

/-!
# Bodies among disturbances

Whatever befalls its calls, a body that is carried out on a draft leaves the store
and the sink alone, and if it succeeds it comes to what it comes to undisturbed. If
calls may be refused but nothing is cancelled, it comes to exactly that unless a call
is refused.
-/
namespace SceneWorkflow

/-- No entry of the plan that is still to come does anything. -/
def Schedule.Idle (plan : Schedule (Option Fault)) : Prop := ∀ e ∈ plan, e.1 ≠ 0 → e.2 = none

def Faults.Quiet (faults : Faults) : Prop := ∀ m, (faults.plan m).Idle

/-- Nothing disturbs the running operation, now or later. -/
def World.Calm {σ : Type} (w : World σ) : Prop := w.cancelled = false ∧ w.faults.Quiet

def Schedule.Only (P : Option Fault → Prop) (plan : Schedule (Option Fault)) : Prop :=
  ∀ e ∈ plan, e.1 ≠ 0 → P e.2

/-- The running operation has not been cancelled, and all that is planned satisfies a condition. To be
calm is to meet nothing. -/
def World.Meets {σ : Type} (P : Option Fault → Prop) (w : World σ) : Prop :=
  w.cancelled = false ∧ ∀ m, (w.faults.plan m).Only P

def World.Uncancelled {σ : Type} (w : World σ) : Prop := w.Meets (· ≠ some .cancel)

theorem World.Calm.meets {σ : Type} {w : World σ} (h : w.Calm) : w.Meets (· = none) := h

theorem World.Meets.calm {σ : Type} {w : World σ} (h : w.Meets (· = none)) : w.Calm := h

variable {P : Option Fault → Prop}

theorem Schedule.Only.next? {plan rest : Schedule (Option Fault)} {fault : Option Fault}
    (h : plan.Only P) (hnext : plan.next? = some (fault, rest)) : P fault ∧ rest.Only P := by
  fun_induction Schedule.next? plan with
  | case1 => cases hnext
  | case2 _ plan ih => exact ih (fun e he => h e (List.mem_cons_of_mem _ he)) hnext
  | case3 n _ plan =>
    cases hnext
    have ha : P fault := h _ List.mem_cons_self (Nat.succ_ne_zero n)
    refine ⟨ha, ?_⟩
    intro e he hne
    rcases List.mem_cons.1 he with rfl | he
    · exact ha
    · exact h e (List.mem_cons_of_mem _ he) hne

theorem Faults.quiet_nil : Faults.Quiet [] := fun _ _ he => nomatch he

theorem World.calm_of_isEmpty {σ : Type} {w : World σ} (hcancelled : w.cancelled = false)
    (hfaults : w.faults.isEmpty = true) : w.Calm := by
  refine ⟨hcancelled, ?_⟩
  rw [List.isEmpty_iff.1 hfaults]
  exact Faults.quiet_nil

theorem World.uncancelled_of_forall {σ : Type} {w : World σ} (hcancelled : w.cancelled = false)
    (hfaults : ∀ e ∈ w.faults, ∀ x ∈ e.2, x.2 ≠ some .cancel) : w.Uncancelled := by
  refine ⟨hcancelled, fun m x hx _ => ?_⟩
  unfold Faults.plan at hx
  cases hplan : w.faults.lookup m with
  | none =>
    rw [hplan] at hx
    cases hx
  | some plan =>
    rw [hplan] at hx
    obtain ⟨before, after, heq, -⟩ := List.lookup_eq_some_iff.1 hplan
    refine hfaults (m, plan) ?_ x hx
    rw [heq]
    exact List.mem_append_right _ List.mem_cons_self

/-- If nothing is cancelled, a call is left alone or, if that may be, refused. -/
theorem Faults.next_of_only {faults : Faults} (hP : ¬ P (some .cancel))
    (h : ∀ m, (faults.plan m).Only P) (m : Method) :
    ((faults.next m).1 = none ∨ P (some .refuse) ∧ (faults.next m).1 = some .refuse) ∧
      ∀ n, ((faults.next m).2.plan n).Only P := by
  unfold Faults.next
  cases hnext : (faults.plan m).next? with
  | none => exact ⟨.inl rfl, h⟩
  | some r =>
    obtain ⟨fault, plan⟩ := r
    obtain ⟨hfault, hrest⟩ := (h m).next? hnext
    constructor
    · cases fault with
      | none => exact .inl rfl
      | some fault =>
        cases fault with
        | refuse => exact .inr ⟨hfault, rfl⟩
        | cancel => exact absurd hfault hP
    · intro n
      rw [plan_set]
      split
      · exact hrest
      · exact h n

/-- An operation comes to a result, or a call has been refused. -/
def RefusedOr {α : Type} (P : Option Fault → Prop) (outcome result : Except Error α) : Prop :=
  outcome = result ∨ P (some .refuse) ∧ ∃ m : Method, outcome = .error m.refusal

theorem RefusedOr.eq {α : Type} {outcome result : Except Error α}
    (h : RefusedOr (· = none) outcome result) : outcome = result := by
  rcases h with heq | ⟨hrefuse, -⟩
  · exact heq
  · cases hrefuse

namespace Operation
variable {σ α β : Type}

theorem bind_apply (x : Operation σ α) (f : α → Operation σ β) (w : World σ) :
    (x >>= f) w =
      match x w with
      | (.ok a, w') => f a w'
      | (.error e, w') => (.error e, w') := by
  show ExceptT.bindCont f (x w).1 (x w).2 = _
  obtain ⟨_ | _, _⟩ := x w <;> rfl

theorem bind_of_ok {x : Operation σ α} {f : α → Operation σ β} {w : World σ} {a : α}
    (h : (x w).1 = .ok a) : (x >>= f) w = f a (x w).2 := by
  rw [bind_apply]
  cases hx : x w with
  | mk r w' =>
    rw [hx] at h
    cases h
    rfl

theorem bind_of_error {x : Operation σ α} {f : α → Operation σ β} {w : World σ} {e : Error}
    (h : (x w).1 = .error e) : (x >>= f) w = (.error e, (x w).2) := by
  rw [bind_apply]
  cases hx : x w with
  | mk r w' =>
    rw [hx] at h
    cases h
    rfl

theorem attempt_bind (x : Operation σ α) (f : Except Error α → Operation σ β) (w : World σ) :
    (attempt x >>= f) w = f (x w).1 (x w).2 := rfl

/-- In a given world the operation leaves the store and the sink alone, succeeds only as the result
does, and comes to the result if nothing is cancelled and no call is refused. -/
structure Follows (x : Operation σ α) (result : Except Error α) (w : World σ) : Prop where
  store : (x w).2.store = w.store
  sink : (x w).2.sink = w.sink
  ok : ∀ a, (x w).1 = .ok a → result = .ok a
  meets : ∀ {P : Option Fault → Prop}, ¬ P (some .cancel) → w.Meets P →
    RefusedOr P (x w).1 result ∧ (x w).2.Meets P

variable {w : World σ}

theorem follows_pure (a : α) : Follows (pure a : Operation σ α) (.ok a) w where
  store := rfl
  sink := rfl
  ok := fun _ h => h
  meets := fun _ h => ⟨.inl rfl, h⟩

theorem follows_throw (e : Error) : Follows (throw e : Operation σ α) (.error e) w where
  store := rfl
  sink := rfl
  ok := fun _ h => h
  meets := fun _ h => ⟨.inl rfl, h⟩

theorem Follows.bind {x : Operation σ α} {f : α → Operation σ β} {result : Except Error α}
    {g : α → Except Error β} (hx : x.Follows result w)
    (hf : ∀ a w', w'.store = w.store → (f a).Follows (g a) w') :
    (x >>= f).Follows (result.bind g) w := by
  cases h : (x w).1 with
  | error e =>
    constructor
    · rw [bind_of_error h]
      exact hx.store
    · rw [bind_of_error h]
      exact hx.sink
    · intro b hb
      rw [bind_of_error h] at hb
      cases hb
    · intro P hP hw
      obtain ⟨hresult, hmeets⟩ := hx.meets hP hw
      rw [bind_of_error h]
      refine ⟨?_, hmeets⟩
      rcases hresult with heq | ⟨hrefuse, m, heq⟩
      · left
        rw [← heq, h]
        rfl
      · right
        rw [h] at heq
        cases heq
        exact ⟨hrefuse, m, rfl⟩
  | ok a =>
    obtain ⟨hstore, hsink, hok, hmeets⟩ := hf a (x w).2 hx.store
    rw [hx.ok a h]
    constructor
    · rw [bind_of_ok h, hstore]
      exact hx.store
    · rw [bind_of_ok h, hsink]
      exact hx.sink
    · intro b hb
      rw [bind_of_ok h] at hb
      exact hok b hb
    · intro P hP hw
      rw [bind_of_ok h]
      exact hmeets hP (hx.meets hP hw).2

theorem follows_checkpoint (operation : String) : Follows (checkpoint operation) (.ok ()) w where
  store := by
    unfold checkpoint
    split <;> rfl
  sink := by
    unfold checkpoint
    split <;> rfl
  ok := fun _ _ => rfl
  meets := by
    intro P _ hw
    unfold checkpoint
    rw [hw.1]
    exact ⟨.inl rfl, hw⟩

/-- The methods of the store have no access to the sink. -/
theorem sink_invoke {m : Method} {f : Store → Except Error (α × Store)} (w : World σ) :
    (invoke m f w).2.sink = w.sink := by
  unfold invoke
  dsimp only
  split
  · rfl
  · split <;> rfl

theorem follows_query {m : Method} {f : Store → Except Error α} :
    Follows (query m f) (f w.store) w where
  store := by
    unfold query invoke
    dsimp only
    split
    · rfl
    · split
      · rfl
      · next h =>
        obtain ⟨_, _, heq⟩ := map_eq_ok.1 h
        cases heq
        rfl
  sink := sink_invoke w
  ok := by
    intro a h
    unfold query invoke at h
    dsimp only at h
    split at h
    · cases h
    · split at h
      · cases h
      · next hmap =>
        obtain ⟨_, hf, heq⟩ := map_eq_ok.1 hmap
        cases heq
        cases h
        exact hf
  meets := by
    intro P hP hw
    obtain ⟨hfault, hrest⟩ := Faults.next_of_only hP hw.2 m
    unfold query invoke
    rcases hfault with hfault | ⟨hrefuse, hfault⟩
    · simp only [hfault, hw.1, reduceCtorEq, if_false]
      cases f w.store with
      | error e => exact ⟨.inl rfl, rfl, hrest⟩
      | ok a => exact ⟨.inl rfl, rfl, hrest⟩
    · simp only [hfault, if_true]
      exact ⟨.inr ⟨hrefuse, m, rfl⟩, hw.1, hrest⟩

theorem follows_signal (m : Method) : Follows (signal m) (.ok ()) w := follows_query

end Operation

namespace Draft
open Operation
variable {σ α : Type} {w : World σ}

theorem follows_call (operation : String) (c : Call) (d : Draft) :
    Follows (call operation c d) (execInstruction (.call c) d) w where
  store := by
    unfold call
    dsimp only
    split
    · rfl
    · split
      · rfl
      · split <;> rfl
  sink := by
    unfold call
    dsimp only
    split
    · rfl
    · split
      · rfl
      · split <;> rfl
  ok := by
    intro r h
    unfold call at h
    dsimp only at h
    split at h
    · cases h
    · split at h
      · cases h
      · split at h
        · cases h
        · next hc =>
          cases h
          show (c.perform d.store).map _ = _
          rw [hc]
          rfl
  meets := by
    intro P hP hw
    obtain ⟨hfault, hrest⟩ := Faults.next_of_only hP hw.2 (.within c.kind)
    unfold call
    show RefusedOr P _ ((c.perform d.store).map _) ∧ _
    rcases hfault with hfault | ⟨hrefuse, hfault⟩
    · simp only [hfault, hw.1, Bool.false_and, Bool.false_eq_true, if_false, reduceCtorEq]
      cases c.perform d.store with
      | error e => exact ⟨.inl rfl, rfl, hrest⟩
      | ok r => exact ⟨.inl rfl, rfl, hrest⟩
    · simp only [hfault, if_true]
      exact ⟨.inr ⟨hrefuse, .within c.kind, rfl⟩, hw.1, hrest⟩

def noted (r : Scene × Draft) : SceneNote × Draft :=
  (r.1.note, { r.2 with notes := r.1.note :: r.2.notes })

theorem known_eq (operation : String) (scene : Int) (d : Draft) :
    known (σ := σ) operation scene d =
      (match d.notes.find? scene with
      | some note => pure note
      | none => call operation (.scene scene) >>= fun x =>
          remember (Scene.note x) >>= fun _ => pure (Scene.note x) :
        StateT Draft (Operation σ) SceneNote) d := rfl

theorem known_of_note {operation : String} {scene : Int} {d : Draft} {note : SceneNote}
    (h : d.notes.find? scene = some note) :
    known (σ := σ) operation scene d = pure (note, d) := by
  rw [known_eq, h]
  rfl

theorem known_of_no_note {operation : String} {scene : Int} {d : Draft}
    (h : d.notes.find? scene = none) :
    known (σ := σ) operation scene d =
      call operation (.scene scene) d >>= fun r => pure (noted r) := by
  rw [known_eq, h]
  rfl

theorem execInstruction_of_no_note {scene : Int} {d : Draft} (h : d.notes.find? scene = none) :
    execInstruction (.known scene) d =
      (execInstruction (.call (.scene scene)) d).bind fun r => .ok (noted r) := by
  have hread : execInstruction (.call (.scene scene)) d =
      ((d.store.getScene scene).map (·, d.store)).map fun r => (r.1, { d with store := r.2 }) := rfl
  rw [hread]
  simp only [execInstruction, h]
  cases d.store.getScene scene <;> rfl

theorem follows_carryOut (operation : String) (i : Instruction) (d : Draft) :
    Follows (carryOut operation i d) (execInstruction i d) w := by
  cases i with
  | call c => exact follows_call operation c d
  | fail e => exact follows_throw e
  | known scene =>
    show Follows (known operation scene d) _ w
    cases h : d.notes.find? scene with
    | some note =>
      have hresult : execInstruction (.known scene) d = .ok (note, d) := by
        simp only [execInstruction, h]
      rw [known_of_note h, hresult]
      exact follows_pure _
    | none =>
      rw [known_of_no_note h, execInstruction_of_no_note h]
      exact (follows_call operation (.scene scene) d).bind fun r _ _ =>
        follows_pure (noted r)
  | remember note => exact follows_pure _

/-- A body is carried out as it would be without disturbance, or fails. -/
theorem follows_interpret (operation : String) (body : Work α) (d : Draft) :
    Follows (body.interpret (carryOut operation) d) (exec body d) w := by
  induction body generalizing d w with
  | done a => exact follows_pure _
  | step i next ih => exact (follows_carryOut operation i d).bind fun r _ _ => ih r.1 r.2

end Draft

end SceneWorkflow
