import SceneWorkflow.Attributes
import SceneWorkflow.Json.Canonical

/-! What workers are told: the scene to download, or the tile to process with the tiles it builds
on. -/

namespace SceneWorkflow

/-- A scene as it is described to workers. -/
structure SceneRef where
  id : Int
  sourceId : String
  aoi : String
  attrs : SceneAttrs
deriving DecidableEq, Inhabited

/-- A tile as it is described to workers, with its scene. -/
structure TileRef where
  id : Int
  sourceId : String
  scene : SceneRef
  attrs : TileAttrs
deriving DecidableEq, Inhabited

structure TileJob where
  tile : TileRef
  previous : Option TileRef := none
  reference : Option TileRef := none
deriving DecidableEq, Inhabited

namespace SceneRef

def toJson (s : SceneRef) : Json :=
  .record [("id", .ofInt s.id), ("source_id", .ofString s.sourceId), ("aoi", .ofString s.aoi),
    ("data", s.attrs.toJson)]

def ofJson? (j : Json) : Option SceneRef := do
  match ← j.fields? ["id", "source_id", "aoi", "data"] with
  | [id, sourceId, aoi, attrs] =>
    return {
      id := ← Json.required Json.int64? id
      sourceId := ← Json.required Json.string? sourceId
      aoi := ← Json.required Json.string? aoi
      attrs := ← Json.required SceneAttrs.ofJson? attrs }
  | _ => none

end SceneRef

namespace TileRef

def members (t : TileRef) : List (String × Json) :=
  [("id", .ofInt t.id), ("source_id", .ofString t.sourceId), ("scene", t.scene.toJson),
    ("data", t.attrs.toJson)]

def toJson (t : TileRef) : Json := .record t.members

def ofJson? (j : Json) : Option TileRef := do
  match ← j.fields? ["id", "source_id", "scene", "data"] with
  | [id, sourceId, scene, attrs] =>
    return {
      id := ← Json.required Json.int64? id
      sourceId := ← Json.required Json.string? sourceId
      scene := ← Json.required SceneRef.ofJson? scene
      attrs := ← Json.required TileAttrs.ofJson? attrs }
  | _ => none

end TileRef

namespace TileJob

/-- The fields of the tile come first; tiles it does not build on are left out. -/
def toJson (t : TileJob) : Json :=
  .record <|
    t.tile.members ++
    (t.previous.toList.map fun previous => ("tile_previous", previous.toJson)) ++
    (t.reference.toList.map fun reference => ("tile_reference", reference.toJson))

/-- Whether a member names a tile that the job builds on. -/
def isLink (m : String × Json) : Bool :=
  m.1 == "tile_previous" || m.1 == "tile_reference"

/-- Reads a job. The members that describe the tile itself are read as full values whether they are
known or not, so each of them needs a canonical form. -/
def ofJson? : Json → Option TileJob
  | .obj ms => do
    let named ← ms.mapM fun m => m.1.map fun key => (key, m.2)
    let own := named.filter fun m => !isLink m
    if own.all fun m => (m.2.canonicalWithin (Json.maxDepth - 1)).isSome then
      return {
        tile := ← TileRef.ofJson? (.record own)
        previous := ← (Json.only? named "tile_previous").bind (Json.optional TileRef.ofJson?)
        reference := ← (Json.only? named "tile_reference").bind (Json.optional TileRef.ofJson?) }
    else none
  | _ => none

end TileJob

end SceneWorkflow
