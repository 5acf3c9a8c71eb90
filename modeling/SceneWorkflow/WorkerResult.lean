import SceneWorkflow.Json.Record
import SceneWorkflow.Status.Counts

/-! What workers report, and the forms in which statuses are written. -/

namespace SceneWorkflow

namespace Status

def toJson (s : Status) : Json := .ofString s.name

def ofJson? : Json → Option Status := Json.tag? ofName?

end Status

namespace StatusCounts

def toJson (c : StatusCounts) : Json :=
  .record [("new", .ofInt c.new), ("pending", .ofInt c.pending), ("done", .ofInt c.done),
    ("retry", .ofInt c.retry), ("failed", .ofInt c.failed)]

def ofJson? (j : Json) : Option StatusCounts := do
  match ← j.fields? ["new", "pending", "done", "retry", "failed"] with
  | [new, pending, done, retry, failed] =>
    return {
      new := ← Json.required Json.int64? new
      pending := ← Json.required Json.int64? pending
      done := ← Json.required Json.int64? done
      retry := ← Json.required Json.int64? retry
      failed := ← Json.required Json.int64? failed }
  | _ => none

end StatusCounts

/-- What a report is about. -/
inductive EntityKind where
  | scene
  | tile
deriving DecidableEq, Inhabited

namespace EntityKind

def name : EntityKind → String
  | scene => "scene"
  | tile => "tile"

def ofName? (text : String) : Option EntityKind :=
  [scene, tile].find? fun k => k.name == text

def toJson (k : EntityKind) : Json := .ofString k.name

def ofJson? : Json → Option EntityKind := Json.tag? ofName?

end EntityKind

/-- The status a worker asks for, and what it says about it. -/
structure WorkerResult where
  kind : EntityKind
  id : Int
  status : Status
  message : String := ""
deriving DecidableEq, Inhabited

namespace WorkerResult

def toJson (r : WorkerResult) : Json :=
  .record [("type", r.kind.toJson), ("id", .ofInt r.id), ("status", r.status.toJson),
    ("message", .ofString r.message)]

def ofJson? (j : Json) : Option WorkerResult := do
  match ← j.fields? ["type", "id", "status", "message"] with
  | [kind, id, status, message] =>
    return {
      kind := ← Json.required EntityKind.ofJson? kind
      id := ← Json.required Json.int64? id
      status := ← Json.required Status.ofJson? status
      message := ← Json.withDefault "" Json.string? message }
  | _ => none

end WorkerResult

end SceneWorkflow
