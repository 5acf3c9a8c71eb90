/-! Programs as trees of instructions: what is asked next may depend on every answer so far. A program
has no meaning of its own; `interpret` gives it one, and gives sequences of programs the sequence of
their meanings. -/

namespace SceneWorkflow

/-- A program that issues instructions `I`, is answered in `A`, and results in `α`. -/
inductive Program (I : Type) (A : I → Type) (α : Type) where
  | done (a : α)
  | step (i : I) (next : A i → Program I A α)

namespace Program

variable {I : Type} {A : I → Type} {α β γ : Type}

def bind : Program I A α → (α → Program I A β) → Program I A β
  | done a, f => f a
  | step i next, f => .step i fun answer => (next answer).bind f

instance : Monad (Program I A) where
  pure := .done
  bind := bind

/-- The program of one instruction, which results in its answer. -/
def perform (i : I) : Program I A (A i) := .step i .done

theorem pure_eq (a : α) : (pure a : Program I A α) = .done a := rfl

theorem done_bind (a : α) (f : α → Program I A β) : (done a : Program I A α) >>= f = f a := rfl

theorem step_bind (i : I) (next : A i → Program I A α) (f : α → Program I A β) :
    step i next >>= f = .step i fun answer => next answer >>= f := rfl

theorem bind_done (p : Program I A α) : p >>= done = p := by
  induction p with
  | done a => rfl
  | step i next ih => rw [step_bind]; congr 1; funext answer; exact ih answer

theorem bind_assoc (p : Program I A α) (f : α → Program I A β) (g : β → Program I A γ) :
    p >>= f >>= g = p >>= fun a => f a >>= g := by
  induction p with
  | done a => rfl
  | step i next ih => simp only [step_bind]; congr 1; funext answer; exact ih answer

instance : LawfulMonad (Program I A) :=
  LawfulMonad.mk' (Program I A) bind_done (fun _ _ => rfl) bind_assoc

/-- Carries out a program, given how each instruction is carried out. -/
def interpret {m : Type → Type} [Monad m] (carry : (i : I) → m (A i)) : Program I A α → m α
  | done a => pure a
  | step i next => carry i >>= fun answer => (next answer).interpret carry

theorem interpret_bind {m : Type → Type} [Monad m] [LawfulMonad m] (carry : (i : I) → m (A i))
    (p : Program I A α) (f : α → Program I A β) :
    (p >>= f).interpret carry = p.interpret carry >>= fun a => (f a).interpret carry := by
  induction p with
  | done a => simp [done_bind, interpret]
  | step i next ih => simp [step_bind, interpret, ih]

theorem interpret_perform {m : Type → Type} [Monad m] [LawfulMonad m] (carry : (i : I) → m (A i))
    (i : I) : (perform i : Program I A (A i)).interpret carry = carry i := by
  simp [perform, interpret]

end Program

end SceneWorkflow
