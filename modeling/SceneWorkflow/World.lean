import SceneWorkflow.Fault
import SceneWorkflow.Sink.Basic

/-! The world that operations act on: the store, the sink, what may disturb the store, and whether the
running operation has been cancelled. An operation that fails leaves the world as it made it. -/

namespace SceneWorkflow

structure World (σ : Type) where
  store : Store := {}
  sink : σ
  faults : Faults := []
  /-- Whether the running operation has been cancelled. -/
  cancelled : Bool := false
  /-- How many waiting jobs are read at once. -/
  batchSize : Int := 100

/-- An operation on the world, which may fail. -/
abbrev Operation (σ : Type) := ExceptT Error (StateM (World σ))

namespace Operation

variable {σ α : Type}

def give (result : Except Error α) : Operation σ α := fun w => (result, w)

/-- Carries out an operation and gives its failure as a result. -/
def attempt (x : Operation σ α) : Operation σ (Except Error α) := fun w =>
  let (result, w) := x w
  (.ok result, w)

/-- Carries out an operation and does not care whether it fails. -/
def tolerate (x : Operation σ α) : Operation σ Unit := fun w => (.ok (), (x w).2)

/-- Fails if the running operation has been cancelled. -/
def checkpoint (operation : String) : Operation σ Unit := fun w =>
  if w.cancelled then (.error (.cancelled operation), w) else (.ok (), w)

/-- Calls a method of the store. A refused call is not made. A call after which the operation is
cancelled has been made. -/
def invoke (m : Method) (f : Store → Except Error (α × Store)) : Operation σ α := fun w =>
  let (fault, faults) := w.faults.next m
  if fault = some .refuse then (.error m.refusal, { w with faults })
  else
    let w := { w with faults, cancelled := w.cancelled || fault == some .cancel }
    match f w.store with
    | .error e => (.error e, w)
    | .ok (a, store) => (.ok a, { w with store })

def query (m : Method) (f : Store → Except Error α) : Operation σ α :=
  invoke m fun s => (f s).map (·, s)

/-- Calls a method that leaves the rows alone. -/
def signal (m : Method) : Operation σ Unit := query m fun _ => .ok ()

def publish [Sink σ] (topic : Topic) (payloads : List String) : Operation σ Unit := fun w =>
  let (result, sink) := Sink.publish topic payloads w.sink
  (result, { w with sink })

end Operation

end SceneWorkflow
