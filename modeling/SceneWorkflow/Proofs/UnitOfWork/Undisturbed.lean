import SceneWorkflow.Proofs.UnitOfWork.Pairs

/-!
# Undisturbed worlds

If nothing is planned and nothing has been cancelled, each method of the store does
what it does to the store and nothing else. A unit of work then leaves the world
exactly as it was, or puts in its place what the relay makes of the committed store.
-/
namespace SceneWorkflow

structure World.Undisturbed {σ : Type} (w : World σ) : Prop where
  faults : w.faults = []
  cancelled : w.cancelled = false

variable {σ α : Type} {w : World σ} (h : w.Undisturbed)
include h

namespace World.Undisturbed

theorem next_faults (m : Method) : w.faults.next m = (none, w.faults) := by
  rw [h.faults]
  rfl

theorem meet (m : Method) : w.meet m = w := by
  unfold World.meet
  rw [h.next_faults]
  show { w with cancelled := w.cancelled || false } = w
  rw [Bool.or_false]

end World.Undisturbed

namespace Operation

theorem invoke_undisturbed (m : Method) (f : Store → Except Error (α × Store)) :
    invoke m f w =
      match f w.store with
      | .error e => (.error e, w)
      | .ok (a, store) => (.ok a, { w with store }) := by
  rw [invoke_eq, h.next_faults, h.meet, if_neg nofun]
  rfl

theorem query_undisturbed (m : Method) (f : Store → Except Error α) :
    query m f w = (f w.store, w) := by
  unfold query
  rw [invoke_undisturbed h]
  cases f w.store <;> rfl

theorem checkpoint_undisturbed (operation : String) : checkpoint operation w = (.ok (), w) := by
  unfold checkpoint
  rw [h.cancelled]
  rfl

end Operation

open Operation

namespace Draft

theorem call_undisturbed (operation : String) (c : Call) (d : Draft) :
    call operation c d w = (execInstruction (.call c) d, w) := by
  rw [call_eq, h.next_faults, h.meet, h.cancelled, if_neg nofun]
  show _ = ((c.perform d.store).map _, w)
  cases c.perform d.store <;> rfl

theorem carryOut_undisturbed (operation : String) (i : Instruction) (d : Draft) :
    carryOut operation i d w = (execInstruction i d, w) := by
  cases i with
  | call c => exact call_undisturbed h operation c d
  | fail e => rfl
  | remember note => rfl
  | known scene =>
    show known operation scene d w = _
    cases hnote : d.notes.find? scene with
    | some note =>
      rw [known_of_note hnote]
      simp only [execInstruction, hnote]
      rfl
    | none =>
      rw [known_of_no_note hnote, execInstruction_of_no_note hnote, bind_apply,
        call_undisturbed h]
      cases execInstruction (.call (.scene scene)) d <;> rfl

theorem interpret_undisturbed (operation : String) (body : Work α) (d : Draft) :
    body.interpret (carryOut operation) d w = (exec body d, w) := by
  induction body generalizing d with
  | done a => rfl
  | step i next ih =>
    show ((carryOut operation i d) >>= fun r => (next r.1).interpret (carryOut operation) r.2) w = _
    rw [bind_apply, carryOut_undisturbed h, exec_step]
    cases execInstruction i d with
    | error e => rfl
    | ok r => exact ih r.1 r.2

end Draft

theorem drafting_undisturbed (operation : String) (body : Work α) :
    drafting operation body w = (Draft.exec body { store := w.store }, w) := by
  show (checkpoint operation >>= fun _ => get >>= fun w => Draft.run operation body w.store >>=
    fun r => checkpoint operation >>= fun _ => pure r) w = _
  rw [bind_apply, checkpoint_undisturbed h]
  show ((body.interpret (Draft.carryOut operation) { store := w.store }) >>=
    fun r => checkpoint operation >>= fun _ => pure r) w = _
  rw [bind_apply, Draft.interpret_undisturbed h]
  cases Draft.exec body { store := w.store } with
  | error e => rfl
  | ok r =>
    show (checkpoint operation >>= fun _ => pure r) w = _
    rw [bind_apply, checkpoint_undisturbed h]
    rfl

/-- A unit of work that fails leaves the world exactly as it was. One that succeeds leaves what the
relay makes of the store that it commits. -/
theorem transact_undisturbed [Sink σ] (operation : String) (body : Work α) :
    transact operation body w =
      match Draft.exec body { store := w.store } with
      | .error e => (.error e, w)
      | .ok (a, d) => (.ok a, (Outbox.flush w.batchSize { w with store := d.store }).2) := by
  rw [transact_eq, bind_apply, checkpoint_undisturbed h]
  show (signal .begin >>= fun _ => attempt (drafting operation body) >>= conclude) w = _
  rw [bind_apply, signal, query_undisturbed h]
  show (attempt (drafting operation body) >>= conclude) w = _
  rw [attempt_bind, drafting_undisturbed h]
  cases Draft.exec body { store := w.store } with
  | error e =>
    show (Except.error e, (signal .rollback w).2) = _
    rw [signal, query_undisturbed h]
  | ok r =>
    obtain ⟨a, d⟩ := r
    show conclude (.ok (a, d)) w = _
    rw [conclude_eq, bind_apply, invoke_undisturbed h]
    rfl

theorem transact_of_faithful [Sink σ] (operation : String) {body : Work α}
    (hbody : Draft.Faithful body { store := w.store }) :
    transact operation body w =
      match body.exec w.store with
      | .error e => (.error e, w)
      | .ok (a, store) => (.ok a, (Outbox.flush w.batchSize { w with store }).2) := by
  rw [transact_undisturbed h, ← hbody.1]
  cases Draft.exec body { store := w.store } <;> rfl

end SceneWorkflow
