import SceneWorkflow.Instant.Parser
import SceneWorkflow.Instant.Printer
import SceneWorkflow.Json.Record

/-! What is known of scenes and tiles besides their place in the workflow. The workflow passes these
attributes on to workers and does not look into them, except for the names under which a scene maps
its tiles. -/

namespace SceneWorkflow

/-- Where a tile lies in its scene. -/
structure TileMapping where
  swathId : String := ""
  tileNr : Int32 := 0
deriving DecidableEq, Inhabited

structure TileAttrs where
  swathId : String := ""
  tileNr : Int32 := 0
  graphName : String := ""
deriving DecidableEq, Inhabited

structure SceneAttrs where
  uuid : String := ""
  date : Option Instant := none
  tiles : KeyMap TileMapping := .empty
  graphName : String := ""
  graphConfig : KeyMap String := .empty
  recordId : String := ""
  instancesId : KeyMap String := .empty
deriving DecidableEq, Inhabited

namespace TileMapping

def toJson (m : TileMapping) : Json :=
  .record [("swath_id", .ofString m.swathId), ("tile_nr", .ofInt32 m.tileNr)]

def ofJson? (j : Json) : Option TileMapping := do
  match ← j.fields? ["swath_id", "tile_nr"] with
  | [swathId, tileNr] =>
    return {
      swathId := ← Json.withDefault "" Json.string? swathId
      tileNr := ← Json.withDefault 0 Json.int32? tileNr }
  | _ => none

end TileMapping

namespace TileAttrs

def toJson (a : TileAttrs) : Json :=
  .record [("swath_id", .ofString a.swathId), ("tile_nr", .ofInt32 a.tileNr),
    ("graph_name", .ofString a.graphName)]

def ofJson? (j : Json) : Option TileAttrs := do
  match ← j.fields? ["swath_id", "tile_nr", "graph_name"] with
  | [swathId, tileNr, graphName] =>
    return {
      swathId := ← Json.withDefault "" Json.string? swathId
      tileNr := ← Json.withDefault 0 Json.int32? tileNr
      graphName := ← Json.withDefault "" Json.string? graphName }
  | _ => none

end TileAttrs

namespace Instant

def toJson (i : Instant) : Json := .ofString i.print

def ofJson? (j : Json) : Option Instant := j.string?.bind parse

end Instant

namespace SceneAttrs

/-- The date is left out when it is not known. -/
def toJson (a : SceneAttrs) : Json :=
  .record <|
    ("uuid", .ofString a.uuid) ::
    (a.date.toList.map fun date => ("date", date.toJson)) ++
    [("tiles", .ofMap TileMapping.toJson a.tiles),
      ("graph_name", .ofString a.graphName),
      ("graph_config", .ofMap .ofString a.graphConfig),
      ("record_id", .ofString a.recordId),
      ("instances_id", .ofMap .ofString a.instancesId)]

def fieldNames : List String :=
  ["uuid", "date", "tiles", "graph_name", "graph_config", "record_id", "instances_id"]

def ofJson? (j : Json) : Option SceneAttrs := do
  match ← j.fields? fieldNames with
  | [uuid, date, tiles, graphName, graphConfig, recordId, instancesId] =>
    return {
      uuid := ← Json.withDefault "" Json.string? uuid
      date := ← Json.optional Instant.ofJson? date
      tiles := ← Json.withDefault .empty (Json.map? TileMapping.ofJson?) tiles
      graphName := ← Json.withDefault "" Json.string? graphName
      graphConfig := ← Json.withDefault .empty (Json.map? Json.string?) graphConfig
      recordId := ← Json.withDefault "" Json.string? recordId
      instancesId := ← Json.withDefault .empty (Json.map? Json.string?) instancesId }
  | _ => none

end SceneAttrs

end SceneWorkflow
