import SceneWorkflow.Proofs.Outbox.Relay

/-!
# Commits

A unit of work either changes nothing or commits what its body makes of the store
when nothing disturbs it, and then has the relay run.
-/
namespace SceneWorkflow

open Operation
variable {σ α : Type}

def drafting (operation : String) (body : Work α) : Operation σ (α × Draft) := do
  checkpoint operation
  let result ← Draft.run operation body (← get).store
  checkpoint operation
  return result

theorem follows_drafting (operation : String) (body : Work α) {w : World σ} :
    Follows (drafting operation body) (Draft.exec body { store := w.store }) w := by
  have hrun : ∀ w' : World σ, w'.store = w.store →
      Follows (get >>= fun w => Draft.run operation body w.store >>= fun r =>
        checkpoint operation >>= fun _ => pure r)
        ((Draft.exec body { store := w.store }).bind fun r => .ok r) w' := by
    intro w' hstore
    have hbody := Draft.follows_interpret (w := w') operation body { store := w.store }
    have hrest := hbody.bind (f := fun r => checkpoint operation >>= fun _ => pure r)
      (g := fun r => .ok r) fun r w₂ _ =>
        (follows_checkpoint operation).bind fun _ _ _ => follows_pure r
    rw [← hstore] at hrest ⊢
    exact ⟨hrest.store, hrest.sink, hrest.ok, hrest.meets⟩
  have hall := (follows_checkpoint (w := w) operation).bind
    (g := fun _ => (Draft.exec body { store := w.store }).bind fun r => .ok r)
    fun _ w' hstore => hrun w' hstore
  have hsame : ((.ok () : Except Error Unit).bind fun _ =>
      (Draft.exec body { store := w.store }).bind fun r => .ok r) =
      Draft.exec body { store := w.store } := by
    cases Draft.exec body { store := w.store } <;> rfl
  rw [hsame] at hall
  exact hall

variable [Sink σ]

def conclude : Except Error (α × Draft) → Operation σ α
  | .error e => do
    tolerate (signal .rollback)
    throw e
  | .ok (a, draft) => do
    invoke .commit fun _ => .ok ((), draft.store)
    tolerate (Outbox.flush (← get).batchSize)
    return a

theorem transact_eq (operation : String) (body : Work α) :
    transact (σ := σ) operation body =
      checkpoint operation >>= fun _ => signal .begin >>= fun _ =>
        attempt (drafting operation body) >>= conclude := rfl

theorem conclude_error (e : Error) (w : World σ) :
    (conclude (α := α) (.error e) w).1 = .error e ∧
      (conclude (α := α) (.error e) w).2.store = w.store ∧
      (conclude (α := α) (.error e) w).2.sink = w.sink :=
  ⟨rfl, (follows_signal .rollback).store, (follows_signal .rollback).sink⟩

theorem conclude_eq (a : α) (d : Draft) :
    conclude (.ok (a, d)) =
      invoke (σ := σ) .commit (fun _ => .ok ((), d.store)) >>= fun _ => get >>= fun w =>
        tolerate (Outbox.flush w.batchSize) >>= fun _ => pure a := rfl

/-- A commit fails and changes nothing, or puts the draft in place of the store. The relay runs
after it. -/
theorem conclude_ok (a : α) (d : Draft) (w : World σ) :
    (∃ e, (conclude (.ok (a, d)) w).1 = .error e ∧
      (conclude (.ok (a, d)) w).2.store = w.store ∧ (conclude (.ok (a, d)) w).2.sink = w.sink) ∨
    ∃ w₁ : World σ, w₁.store = d.store ∧ w₁.sink = w.sink ∧
      (conclude (.ok (a, d)) w).1 = .ok a ∧
      (conclude (.ok (a, d)) w).2 = (Outbox.flush w₁.batchSize w₁).2 := by
  rw [conclude_eq]
  obtain ⟨hsink, ⟨e, herror, hsame⟩ | ⟨_, hok, hstore⟩⟩ :=
    invoke_cases .commit (fun _ => .ok ((), d.store)) w
  · rw [bind_of_error herror]
    exact .inl ⟨e, rfl, hsame, hsink⟩
  · rw [bind_of_ok hok]
    exact .inr ⟨_, (congrArg Prod.snd (Except.ok.inj hstore)).symm, hsink, rfl, rfl⟩

/-- If nothing is cancelled, a commit succeeds or is refused. -/
theorem conclude_ok_of_meets {P : Option Fault → Prop} (hP : ¬ P (some .cancel)) (a : α) (d : Draft)
    {w : World σ} (hw : w.Meets P) : RefusedOr P (conclude (.ok (a, d)) w).1 (.ok a) := by
  obtain ⟨hfault, -⟩ := Faults.next_of_only hP hw.2 .commit
  rw [conclude_eq, bind_apply]
  unfold invoke
  rcases hfault with hfault | ⟨hrefuse, hfault⟩
  · simp only [hfault, reduceCtorEq, if_false]
    exact .inl rfl
  · simp only [hfault, if_true]
    exact .inr ⟨hrefuse, .commit, rfl⟩

/-- A unit of work that fails has changed nothing, and nothing has been published. One that succeeds
has committed what its body makes of the store, and then the relay has run. -/
theorem transact_cases (operation : String) (body : Work α) (w : World σ) :
    (∃ e, (transact operation body w).1 = .error e ∧
      (transact operation body w).2.store = w.store ∧
      (transact operation body w).2.sink = w.sink) ∨
    ∃ a d, ∃ w₁ : World σ, Draft.exec body { store := w.store } = .ok (a, d) ∧
      w₁.store = d.store ∧ w₁.sink = w.sink ∧ (transact operation body w).1 = .ok a ∧
      (transact operation body w).2 = (Outbox.flush w₁.batchSize w₁).2 := by
  rw [transact_eq]
  have hstart := follows_checkpoint (w := w) operation
  cases h₁ : (checkpoint operation w).1 with
  | error e =>
    rw [bind_of_error h₁]
    exact .inl ⟨e, rfl, hstart.store, hstart.sink⟩
  | ok _ =>
    rw [bind_of_ok h₁, ← hstart.store, ← hstart.sink]
    generalize (checkpoint operation w).2 = w
    have hbegin := follows_signal (w := w) .begin
    cases h₂ : (signal .begin w).1 with
    | error e =>
      rw [bind_of_error h₂]
      exact .inl ⟨e, rfl, hbegin.store, hbegin.sink⟩
    | ok _ =>
      rw [bind_of_ok h₂, attempt_bind, ← hbegin.store, ← hbegin.sink]
      generalize (signal .begin w).2 = w
      obtain ⟨hstore, hsink, hok, -⟩ := follows_drafting (w := w) operation body
      rw [← hstore, ← hsink]
      rw [← hstore] at hok
      cases h₃ : (drafting operation body w).1 with
      | error e => exact .inl ⟨e, conclude_error e _⟩
      | ok r =>
        rcases conclude_ok r.1 r.2 (drafting operation body w).2 with
          hfails | ⟨w₁, hcommitted, hsame, hresult, hworld⟩
        · exact .inl hfails
        · exact .inr ⟨r.1, r.2, w₁, hok r h₃, hcommitted, hsame, hresult, hworld⟩

theorem transact_of_meets {P : Option Fault → Prop} (hP : ¬ P (some .cancel)) (operation : String)
    (body : Work α) {w : World σ} (hw : w.Meets P) :
    RefusedOr P (transact operation body w).1
      ((Draft.exec body { store := w.store }).map fun r => r.1) := by
  have hstart := follows_checkpoint (w := w) operation
  obtain ⟨h₁, hw₁⟩ : (checkpoint operation w).1 = .ok () ∧ _ := by
    refine ⟨?_, (hstart.meets hP hw).2⟩
    unfold checkpoint
    rw [hw.1]
    rfl
  rw [transact_eq, bind_of_ok h₁]
  generalize hsecond : (checkpoint operation w).2 = w₁ at hw₁
  have hstore₁ : w₁.store = w.store := hsecond ▸ hstart.store
  have hbegin := follows_signal (w := w₁) .begin
  obtain ⟨h₂ | ⟨hrefuse, m, h₂⟩, hw₂⟩ := hbegin.meets hP hw₁
  · rw [bind_of_ok h₂, attempt_bind]
    generalize hthird : (signal .begin w₁).2 = w₂ at hw₂
    have hstore₂ : w₂.store = w.store := (hthird ▸ hbegin.store).trans hstore₁
    have hdraft := follows_drafting (w := w₂) operation body
    obtain ⟨h₃ | ⟨hrefuse, m, h₃⟩, hw₃⟩ := hdraft.meets hP hw₂
    · rw [h₃, hstore₂]
      cases Draft.exec body { store := w.store } with
      | error e => exact .inl (conclude_error e _).1
      | ok r => exact conclude_ok_of_meets hP r.1 r.2 hw₃
    · rw [h₃]
      exact .inr ⟨hrefuse, m, (conclude_error _ _).1⟩
  · rw [bind_of_error h₂]
    exact .inr ⟨hrefuse, m, rfl⟩

/-- If nothing disturbs it, a unit of work results in what its body results in. -/
theorem transact_of_calm (operation : String) (body : Work α) {w : World σ} (hw : w.Calm) :
    (transact operation body w).1 =
      (Draft.exec body { store := w.store }).map fun r => r.1 :=
  (transact_of_meets nofun operation body hw.meets).eq

end SceneWorkflow
