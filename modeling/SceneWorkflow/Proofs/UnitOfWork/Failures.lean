import SceneWorkflow.Proofs.UnitOfWork.Commit

/-!
# Why units of work fail

A unit of work fails as its body does on the store, or from outside: a call has been
refused, or the operation has been cancelled.
-/
namespace SceneWorkflow

/-- A call has been refused, or the operation has been cancelled. -/
def Error.FromOutside (e : Error) : Prop :=
  (∃ m : Method, e = m.refusal) ∨ ∃ operation, e = .cancelled operation

namespace Operation
variable {σ α β : Type} {w : World σ} {result : Except Error α}

/-- In a given world the operation fails only as the result does, or from outside. -/
def FailsAs (x : Operation σ α) (result : Except Error α) (w : World σ) : Prop :=
  ∀ e, (x w).1 = .error e → result = .error e ∨ e.FromOutside

theorem failsAs_pure (a : α) : FailsAs (pure a : Operation σ α) result w := nofun

theorem failsAs_throw (e : Error) : FailsAs (throw e : Operation σ α) (.error e) w :=
  fun _ he => .inl he

theorem FailsAs.bind {x : Operation σ α} {f : α → Operation σ β} {g : α → Except Error β}
    (h : x.FailsAs result w) (hx : x.Follows result w)
    (hf : ∀ a w', w'.store = w.store → (f a).FailsAs (g a) w') :
    (x >>= f).FailsAs (result.bind g) w := by
  intro e he
  cases hfirst : (x w).1 with
  | error e' =>
    rw [bind_of_error hfirst] at he
    cases he
    refine (h e hfirst).imp_left fun hresult => ?_
    rw [hresult]
    rfl
  | ok a =>
    rw [bind_of_ok hfirst] at he
    rw [hx.ok a hfirst]
    exact hf a _ hx.store e he

/-- What comes after a first part that can fail only from outside decides how the whole fails. -/
theorem FailsAs.after {x : Operation σ α} {a : α} {f : α → Operation σ β} {result : Except Error β}
    (h : x.FailsAs (.ok a) w) (hx : x.Follows (.ok a) w)
    (hf : ∀ w', w'.store = w.store → (f a).FailsAs result w') : (x >>= f).FailsAs result w := by
  intro e he
  cases hfirst : (x w).1 with
  | error e' =>
    rw [bind_of_error hfirst] at he
    cases he
    exact .inr ((h e hfirst).resolve_left nofun)
  | ok b =>
    rw [bind_of_ok hfirst] at he
    cases hx.ok b hfirst
    exact hf _ hx.store e he

theorem failsAs_checkpoint (operation : String) : FailsAs (checkpoint operation) (.ok ()) w := by
  intro e he
  unfold checkpoint at he
  split at he
  · cases he
    exact .inr (.inr ⟨operation, rfl⟩)
  · cases he

theorem failsAs_invoke (m : Method) (f : Store → Except Error (α × Store)) :
    FailsAs (invoke m f) ((f w.store).map fun r => r.1) w := by
  intro e he
  unfold invoke at he
  dsimp only at he
  split at he
  · cases he
    exact .inr (.inl ⟨m, rfl⟩)
  · cases hf : f w.store with
    | error e' =>
      rw [hf] at he
      cases he
      exact .inl rfl
    | ok r =>
      rw [hf] at he
      cases he

theorem failsAs_signal (m : Method) : FailsAs (signal m) (.ok ()) w := failsAs_invoke m _

end Operation

namespace Draft
open Operation
variable {σ α : Type} {w : World σ}

theorem failsAs_call (operation : String) (c : Call) (d : Draft) :
    FailsAs (call operation c d) (execInstruction (.call c) d) w := by
  intro e he
  unfold call at he
  dsimp only at he
  split at he
  · cases he
    exact .inr (.inl ⟨_, rfl⟩)
  · split at he
    · cases he
      exact .inr (.inr ⟨operation, rfl⟩)
    · split at he
      · next hc =>
        cases he
        left
        show (c.perform d.store).map _ = _
        rw [hc]
        rfl
      · cases he

theorem failsAs_carryOut (operation : String) (i : Instruction) (d : Draft) :
    FailsAs (carryOut operation i d) (execInstruction i d) w := by
  cases i with
  | call c => exact failsAs_call operation c d
  | fail e => exact failsAs_throw e
  | known scene =>
    show FailsAs (known operation scene d) _ w
    cases h : d.notes.find? scene with
    | some note =>
      rw [known_of_note h]
      exact failsAs_pure _
    | none =>
      rw [known_of_no_note h, execInstruction_of_no_note h]
      exact (failsAs_call operation (.scene scene) d).bind (follows_call operation (.scene scene) d)
        fun r _ _ => failsAs_pure _
  | remember note => exact failsAs_pure _

theorem failsAs_interpret (operation : String) (body : Work α) (d : Draft) :
    FailsAs (body.interpret (carryOut operation) d) (exec body d) w := by
  induction body generalizing d w with
  | done a => exact failsAs_pure _
  | step i next ih =>
    exact (failsAs_carryOut operation i d).bind (follows_carryOut operation i d)
      fun r _ _ => ih r.1 r.2

end Draft

open Operation
variable {σ α : Type} {w : World σ}

theorem failsAs_drafting (operation : String) (body : Work α) :
    FailsAs (drafting operation body) (Draft.exec body { store := w.store }) w := by
  refine (failsAs_checkpoint operation).after (follows_checkpoint operation) fun w₁ hstore => ?_
  rw [← hstore]
  have hrun := Draft.failsAs_interpret (w := w₁) operation body { store := w₁.store }
  have hbody := hrun.bind (f := fun r => checkpoint operation >>= fun _ => pure r) (g := .ok)
    (Draft.follows_interpret operation body _) fun r _ _ =>
      (failsAs_checkpoint operation).after (follows_checkpoint operation) fun _ _ => failsAs_pure r
  have hsame : (Draft.exec body { store := w₁.store }).bind .ok =
      Draft.exec body { store := w₁.store } := by
    cases Draft.exec body { store := w₁.store } <;> rfl
  rw [hsame] at hbody
  exact hbody

theorem failsAs_transact [Sink σ] (operation : String) (body : Work α) :
    FailsAs (transact operation body) ((Draft.exec body { store := w.store }).map fun r => r.1)
      w := by
  rw [transact_eq]
  refine (failsAs_checkpoint operation).after (follows_checkpoint operation) fun w₁ h₁ =>
    (failsAs_signal .begin).after (follows_signal .begin) fun w₂ h₂ => ?_
  intro e he
  rw [attempt_bind] at he
  cases hdraft : (drafting operation body w₂).1 with
  | error e' =>
    rw [hdraft] at he
    cases (conclude_error e' _).1.symm.trans he
    refine (failsAs_drafting operation body e hdraft).imp_left fun hbody => ?_
    rw [← h₁, ← h₂, hbody]
    rfl
  | ok r =>
    rw [hdraft] at he
    generalize (drafting operation body w₂).2 = w₃ at he
    obtain ⟨a, d⟩ := r
    rw [conclude_eq] at he
    -- Nothing but the commit itself can fail any more.
    cases hcommit : (invoke .commit (fun _ => .ok ((), d.store)) w₃).1 with
    | error e' =>
      rw [bind_of_error hcommit] at he
      cases he
      exact .inr ((failsAs_invoke .commit _ e hcommit).resolve_left nofun)
    | ok _ =>
      rw [bind_of_ok hcommit] at he
      cases he

end SceneWorkflow
