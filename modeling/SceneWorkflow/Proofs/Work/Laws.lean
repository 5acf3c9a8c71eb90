import SceneWorkflow.Work

/-!
# Laws of bodies of units of work

A body that succeeds step by step succeeds as a whole, and what every call that
it may make preserves is preserved by the body.
-/
namespace SceneWorkflow

namespace Program
variable {I : Type} {A : I → Type} {α β : Type}

/-- Every instruction that the program may issue satisfies a condition. -/
def Uses (P : I → Prop) : Program I A α → Prop
  | done _ => True
  | step i next => P i ∧ ∀ answer, (next answer).Uses P

theorem uses_true (p : Program I A α) : p.Uses fun _ => True := by
  induction p with
  | done a => trivial
  | step i next ih => exact ⟨trivial, ih⟩

theorem Uses.mono {P Q : I → Prop} {p : Program I A α} (h : p.Uses P) (hPQ : ∀ i, P i → Q i) :
    p.Uses Q := by
  induction p with
  | done a => trivial
  | step i next ih => exact ⟨hPQ i h.1, fun answer => ih answer (h.2 answer)⟩

theorem uses_pure (P : I → Prop) (a : α) : (pure a : Program I A α).Uses P := trivial

theorem uses_perform {P : I → Prop} {i : I} (h : P i) :
    (perform i : Program I A (A i)).Uses P :=
  ⟨h, fun _ => trivial⟩

theorem uses_bind {P : I → Prop} {p : Program I A α} {f : α → Program I A β}
    (hp : p.Uses P) (hf : ∀ a, (f a).Uses P) : (p >>= f).Uses P := by
  induction p with
  | done a => exact hf a
  | step i next ih =>
    obtain ⟨hi, hnext⟩ := hp
    exact ⟨hi, fun answer => ih answer (hnext answer)⟩

theorem uses_forM {P : I → Prop} {f : α → Program I A PUnit} (hf : ∀ a, (f a).Uses P)
    (as : List α) : (as.forM f).Uses P := by
  induction as with
  | nil => exact uses_pure P _
  | cons a as ih => exact uses_bind (hf a) fun _ => ih

end Program

namespace Work
variable {α β : Type} {s s' : Store}

theorem exec_bind_ok {w : Work α} {f : α → Work β} {a : α} (h : w.exec s = .ok (a, s')) :
    (w >>= f).exec s = (f a).exec s' := by
  rw [exec_bind, h]
  rfl

theorem exec_bind_eq_ok {w : Work α} {f : α → Work β} {r : β × Store}
    (h : (w >>= f).exec s = .ok r) :
    ∃ a s₁, w.exec s = .ok (a, s₁) ∧ (f a).exec s₁ = .ok r := by
  rw [exec_bind] at h
  cases hw : w.exec s with
  | error e =>
    rw [hw] at h
    cases h
  | ok x =>
    rw [hw] at h
    exact ⟨x.1, x.2, rfl, h⟩

/-- The loop law: what holds before the list and is carried from each element to the next holds
after the list. -/
theorem exec_forM {f : α → Work PUnit} {I : List α → Store → Prop}
    (hf : ∀ a rest s, I (a :: rest) s → ∃ s', (f a).exec s = .ok (⟨⟩, s') ∧ I rest s')
    {as : List α} (h : I as s) : ∃ s', (as.forM f).exec s = .ok (⟨⟩, s') ∧ I [] s' := by
  induction as generalizing s with
  | nil => exact ⟨s, rfl, h⟩
  | cons a as ih =>
    obtain ⟨s₁, hstep, h₁⟩ := hf a as s h
    obtain ⟨s₂, hrest, h₂⟩ := ih h₁
    refine ⟨s₂, ?_, h₂⟩
    show (f a >>= fun _ => as.forM f).exec s = _
    rw [exec_bind_ok hstep]
    exact hrest

theorem exec_forM_eq_ok {f : α → Work PUnit} {I : List α → Store → Prop}
    (hf : ∀ a rest s s', I (a :: rest) s → (f a).exec s = .ok (⟨⟩, s') → I rest s')
    {as : List α} (h : I as s) (hok : (as.forM f).exec s = .ok (⟨⟩, s')) : I [] s' := by
  induction as generalizing s with
  | nil =>
    cases hok
    exact h
  | cons a as ih =>
    obtain ⟨_, s₁, hstep, hrest⟩ := exec_bind_eq_ok (w := f a) (f := fun _ => as.forM f) hok
    exact ih (hf a as s s₁ h hstep) hrest

/-- A call that succeeds at all is carried out on the store; the other instructions leave the store
alone. -/
theorem execInstruction_eq_ok {i : Instruction} {answer : i.Answer}
    (h : execInstruction i s = .ok (answer, s')) :
    s' = s ∨ ∃ c, i = .call c ∧ ∃ a, c.perform s = .ok (a, s') := by
  cases i with
  | call c => exact .inr ⟨c, rfl, answer, h⟩
  | fail e => cases h
  | known scene =>
    change (s.getScene scene).map (fun x => (x.note, s)) = .ok (answer, s') at h
    cases hget : s.getScene scene with
    | error e =>
      rw [hget] at h
      cases h
    | ok x =>
      rw [hget] at h
      cases h
      exact .inl rfl
  | remember note =>
    cases h
    exact .inl rfl

/-- A body relates the stores before and after it as its calls do. -/
theorem exec_relates {R : Store → Store → Prop} {P : Instruction → Prop}
    (refl : ∀ s, R s s) (trans : ∀ {s₁ s₂ s₃}, R s₁ s₂ → R s₂ s₃ → R s₁ s₃)
    (hcall : ∀ c s a s', P (.call c) → c.perform s = .ok (a, s') → R s s')
    {w : Work α} (hw : w.Uses P) {a : α} (h : w.exec s = .ok (a, s')) : R s s' := by
  induction w generalizing s with
  | done b =>
    cases h
    exact refl _
  | step i next ih =>
    obtain ⟨hi, hnext⟩ := hw
    obtain ⟨answer, s₁, hstep, hrest⟩ := exec_bind_eq_ok (w := Program.perform i) h
    have hexec : execInstruction i s = .ok (answer, s₁) := by
      rw [← hstep]
      exact (congrFun (Program.interpret_perform execInstruction i) s).symm
    have hfirst : R s s₁ := by
      obtain rfl | ⟨c, rfl, b, hc⟩ := execInstruction_eq_ok hexec
      · exact refl s₁
      · exact hcall c s b s₁ hi hc
    exact trans hfirst (ih answer (hnext answer) hrest)

end Work

end SceneWorkflow
