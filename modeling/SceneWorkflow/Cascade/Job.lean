import SceneWorkflow.Json.Printer
import SceneWorkflow.Work

/-! Queueing jobs. A job describes its tile and the tiles it builds on as the unit of work leaves
them. -/

namespace SceneWorkflow.Cascade

def queueScene (s : Scene) : Work Unit :=
  Work.enqueueJob .sceneJobs s.ref.toJson.print

def describe (t : Tile) : Work TileRef := do
  let note ← Work.known t.scene
  return t.refIn note.ref

def describeLinked : Option Int → Work (Option TileRef)
  | none => pure none
  | some id => do
    let t ← Work.tile id
    return some (← describe t)

def queueTile (t : Tile) : Work Unit := do
  let previous ← describeLinked t.previous
  let reference ← describeLinked t.reference
  let tile ← describe t
  Work.enqueueJob .tileJobs (TileJob.toJson ⟨tile, previous, reference⟩).print

end SceneWorkflow.Cascade
