import SceneWorkflow.Job
import SceneWorkflow.WorkerResult

/-! The entities of the workflow: areas of interest, the scenes acquired of them, and the tiles into
which scenes are cut. -/

namespace SceneWorkflow

/-- An area of interest, with the status that stands for all its scenes and tiles. -/
structure Aoi where
  id : String
  status : Status
deriving DecidableEq, Inhabited

structure Scene where
  id : Int
  sourceId : String
  aoi : String
  status : Status
  message : String := ""
  attrs : SceneAttrs
  /-- How often work may still be repeated without asking. -/
  budget : Int
deriving DecidableEq, Inhabited

structure Tile where
  id : Int
  sourceId : String
  scene : Int
  /-- The tile that must be done before this one starts. -/
  previous : Option Int
  /-- The tile this one is compared with. -/
  reference : Option Int
  status : Status
  message : String := ""
  attrs : TileAttrs
  /-- How often work may still be repeated without asking. -/
  budget : Int
deriving DecidableEq, Inhabited

/-- What a unit of work needs to know of a scene: how it is described, and where it stands. -/
structure SceneNote where
  ref : SceneRef
  status : Status
deriving DecidableEq, Inhabited

namespace Aoi

def toJson (a : Aoi) : Json := .record [("id", .ofString a.id), ("status", a.status.toJson)]

def ofJson? (j : Json) : Option Aoi := do
  match ← j.fields? ["id", "status"] with
  | [id, status] =>
    return {
      id := ← Json.required Json.string? id
      status := ← Json.required Status.ofJson? status }
  | _ => none

end Aoi

namespace Scene

def ref (s : Scene) : SceneRef := ⟨s.id, s.sourceId, s.aoi, s.attrs⟩

def note (s : Scene) : SceneNote := ⟨s.ref, s.status⟩

end Scene

namespace Tile

/-- A tile that neither waits for a tile nor is compared with one. -/
def isRoot (t : Tile) : Bool := t.previous.isNone && t.reference.isNone

def refIn (t : Tile) (scene : SceneRef) : TileRef := ⟨t.id, t.sourceId, scene, t.attrs⟩

end Tile

end SceneWorkflow
