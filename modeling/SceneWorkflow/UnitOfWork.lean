import SceneWorkflow.Outbox
import SceneWorkflow.Work

/-! Units of work: a body is carried out on a draft of the store, which replaces the store when it is
committed. Whatever fails before leaves the store as it was. What was queued is relayed after the
commit, and a failure there does not undo the work. -/

namespace SceneWorkflow

namespace Draft

variable {σ : Type}

/-- Makes a call on the draft. Cancellation is noticed when a call has to wait. -/
def call (operation : String) (c : Call) : StateT Draft (Operation σ) c.Answer := fun draft w =>
  let (fault, faults) := w.faults.next (.within c.kind)
  if fault = some .refuse then (.error (Method.within c.kind).refusal, { w with faults })
  else if w.cancelled && c.waits then (.error (.cancelled operation), { w with faults })
  else
    let w := { w with faults, cancelled := w.cancelled || fault == some .cancel }
    match c.perform draft.store with
    | .error e => (.error e, w)
    | .ok (a, store) => (.ok (a, { draft with store }), w)

def remember (note : SceneNote) : StateT Draft (Operation σ) Unit :=
  modify fun draft => { draft with notes := note :: draft.notes }

/-- What is known of a scene; one that is not known is read and noted. -/
def known (operation : String) (scene : Int) : StateT Draft (Operation σ) SceneNote := do
  match (← get).notes.find? scene with
  | some note => return note
  | none => do
    let found : Scene ← call operation (.scene scene)
    remember found.note
    return found.note

/-- Carries out one instruction of a body. -/
def carryOut (operation : String) : (i : Instruction) → StateT Draft (Operation σ) i.Answer
  | .call c => call operation c
  | .fail e => throw e
  | .known scene => known operation scene
  | .remember note => remember note

def run (operation : String) (body : Work α) (store : Store) : Operation σ (α × Draft) :=
  (body.interpret (carryOut operation)).run { store }

end Draft

open Operation

variable {σ : Type} [Sink σ]

/-- Carries out a body as one unit of work. -/
def transact (operation : String) (body : Work α) : Operation σ α := do
  checkpoint operation
  signal .begin
  let outcome ← attempt do
    checkpoint operation
    let result ← Draft.run operation body (← get).store
    checkpoint operation
    return result
  match outcome with
  | .error e => do
    tolerate (signal .rollback)
    throw e
  | .ok (a, draft) => do
    invoke .commit fun _ => .ok ((), draft.store)
    tolerate (Outbox.flush (← get).batchSize)
    return a

end SceneWorkflow
