import SceneWorkflow.Json.Canonical
import SceneWorkflow.Json.Parser
import SceneWorkflow.Json.Printer
import SceneWorkflow.Sink.Basic

/-! A sink that writes each job as one line: an object of its topic and its payload. Payloads are
rewritten in canonical form, which leaves no line break in them. -/

namespace SceneWorkflow

/-- The lines written so far. -/
structure JsonLines where
  lines : List String := []

namespace JsonLines

/-- The line of a payload; `none` if the payload is not JSON. -/
def line? (topic : Topic) (payload : String) : Option String := do
  let document ← (← Json.parse payload).canonical?
  return (Json.record [("topic", .ofString topic.name), ("payload", document)]).print

/-- Writes all lines of a batch, or none if there is a payload that is not JSON. -/
def publish (topic : Topic) (payloads : List String) (out : JsonLines) :
    Except Error Unit × JsonLines :=
  match payloads.mapM (line? topic) with
  | some lines => (.ok (), ⟨out.lines ++ lines⟩)
  | none => (.error (.publish topic.name "payload is not JSON"), out)

instance : Sink JsonLines := ⟨publish⟩

/-- Writes a batch of payloads that come as bytes. Bytes that are no text are no JSON either. -/
def publishBytes (topic : Topic) (payloads : List (List UInt8)) (out : JsonLines) :
    Except Error Unit × JsonLines :=
  match payloads.mapM fun payload => String.fromUTF8? ⟨payload.toArray⟩ with
  | some payloads => publish topic payloads out
  | none => (.error (.publish topic.name "payload is not JSON"), out)

/-- The bytes written so far. A line feed ends each line. -/
def bytes (out : JsonLines) : List UInt8 :=
  out.lines.flatMap fun line => line.toUTF8.data.toList ++ [10]

end JsonLines

end SceneWorkflow
