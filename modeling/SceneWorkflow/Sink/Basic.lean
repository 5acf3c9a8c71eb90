import SceneWorkflow.Json.Parser
import SceneWorkflow.Schedule
import SceneWorkflow.Topic

/-! Where jobs are announced. A sink takes batches of payloads on a topic, or refuses a batch as a
whole. -/

namespace SceneWorkflow

class Sink (σ : Type) where
  publish : Topic → List String → σ → Except Error Unit × σ

/-- A sink in memory. It keeps the batches it has accepted, and refuses those that its plan says. -/
structure Recorder where
  batches : List (Topic × List String) := []
  /-- Whether the next batches are accepted. -/
  plan : Schedule Bool := []

namespace Recorder

def accept (r : Recorder) (topic : Topic) (payloads : List String) : Recorder :=
  { r with batches := r.batches ++ [(topic, payloads)] }

def publish (topic : Topic) (payloads : List String) (r : Recorder) :
    Except Error Unit × Recorder :=
  match r.plan.next? with
  | some (false, plan) => (.error (.publish topic.name "publisher is set to fail"), { r with plan })
  | some (true, plan) => (.ok (), { r.accept topic payloads with plan })
  | none => (.ok (), r.accept topic payloads)

instance : Sink Recorder := ⟨publish⟩

/-- All payloads accepted on a topic, in order. -/
def published (r : Recorder) (topic : Topic) : List String :=
  (r.batches.filter fun b => b.1 == topic).flatMap (·.2)

def size (r : Recorder) : Nat := (r.batches.flatMap (·.2)).length

def decoded (r : Recorder) (topic : Topic) (d : Json → Option α) : Except Error (List α) :=
  match (r.published topic).mapM fun payload => (Json.parse payload).bind d with
  | some values => .ok values
  | none => .error (.database "json" "a payload does not read back")

/-- How many batches are still to be refused. -/
def refusals (r : Recorder) : Nat := Schedule.size (r.plan.filter fun e => !e.2)

end Recorder

end SceneWorkflow
