import SceneWorkflow.Attributes

/-! Requests to take up a scene: its tiles, what they build on, and how often work on it may be
repeated without asking. -/

namespace SceneWorkflow

/-- Names a tile by the names its provider gave to it and to its scene. -/
structure TileLink where
  scene : String
  tile : String
deriving DecidableEq, Inhabited

/-- A tile to be taken up. It waits for the previous tile and is compared with the reference. -/
structure TileRequest where
  previous : Option TileLink := none
  reference : Option TileLink := none
  attrs : TileAttrs := {}
deriving DecidableEq, Inhabited

/-- A scene to be taken up. The budget is that of the scene and of each of its tiles. -/
structure SceneRequest where
  sourceId : String
  aoi : String
  budget : Int32 := 0
  attrs : SceneAttrs := {}
  tiles : KeyMap TileRequest
deriving DecidableEq, Inhabited

namespace TileLink

def toJson (l : TileLink) : Json :=
  .record [("scene_source_id", .ofString l.scene), ("tile_source_id", .ofString l.tile)]

def ofJson? (j : Json) : Option TileLink := do
  match ← j.fields? ["scene_source_id", "tile_source_id"] with
  | [scene, tile] =>
    return {
      scene := ← Json.required Json.string? scene
      tile := ← Json.required Json.string? tile }
  | _ => none

end TileLink

namespace TileRequest

/-- The links to tiles of the scene with the given name. -/
def linksInto (scene : String) (r : TileRequest) : List TileLink :=
  (r.previous.toList ++ r.reference.toList).filter fun l => l.scene == scene

/-- Links that are absent are written as `null`. -/
def toJson (r : TileRequest) : Json :=
  .record [("previous", .ofOption TileLink.toJson r.previous),
    ("reference", .ofOption TileLink.toJson r.reference), ("data", r.attrs.toJson)]

def ofJson? (j : Json) : Option TileRequest := do
  match ← j.fields? ["previous", "reference", "data"] with
  | [previous, reference, attrs] =>
    return {
      previous := ← Json.optional TileLink.ofJson? previous
      reference := ← Json.optional TileLink.ofJson? reference
      attrs := ← Json.withDefault {} TileAttrs.ofJson? attrs }
  | _ => none

end TileRequest

namespace SceneRequest

def toJson (r : SceneRequest) : Json :=
  .record [("source_id", .ofString r.sourceId), ("aoi", .ofString r.aoi),
    ("retry_count", .ofInt32 r.budget), ("data", r.attrs.toJson),
    ("tiles", .ofMap TileRequest.toJson r.tiles)]

def ofJson? (j : Json) : Option SceneRequest := do
  match ← j.fields? ["source_id", "aoi", "retry_count", "data", "tiles"] with
  | [sourceId, aoi, budget, attrs, tiles] =>
    return {
      sourceId := ← Json.required Json.string? sourceId
      aoi := ← Json.required Json.string? aoi
      budget := ← Json.withDefault 0 Json.int32? budget
      attrs := ← Json.withDefault {} SceneAttrs.ofJson? attrs
      tiles := ← Json.required (Json.map? TileRequest.ofJson?) tiles }
  | _ => none

end SceneRequest

end SceneWorkflow
