import SceneWorkflow.Json.Parser
import SceneWorkflow.Json.Printer
import SceneWorkflow.Store.Read

/-! How scenes and tiles lie in the tables of a database. A row names the status and holds the
attributes as the text of a document; it is read back column by column. -/

namespace SceneWorkflow

structure SceneRow where
  id : Int
  sourceId : String
  aoi : String
  status : String
  message : String
  data : String
  budget : Int
deriving DecidableEq, Inhabited

structure TileRow where
  id : Int
  sourceId : String
  scene : Int
  previous : Option Int
  reference : Option Int
  status : String
  message : String
  data : String
  budget : Int
deriving DecidableEq, Inhabited

/-- What is selected of a tile and its scene to describe the tile. -/
structure TileRefRow where
  id : Int
  sourceId : String
  data : String
  scene : Int
  sceneSourceId : String
  aoi : String
  sceneData : String
deriving DecidableEq, Inhabited

def readColumn (d : Json → Option α) (text : String) : Except Error α :=
  match (Json.parse text).bind d with
  | some a => .ok a
  | none => .error (.database "json" "a column does not read back")

namespace Scene

def row (x : Scene) : SceneRow :=
  { x with status := x.status.name, data := x.attrs.toJson.print }

end Scene

namespace SceneRow

def read (operation : String) (r : SceneRow) : Except Error Scene := do
  if Store.leastBudget ≤ r.budget then
    return { r with
      status := ← Status.parse r.status
      attrs := ← readColumn SceneAttrs.ofJson? r.data }
  else throw (Store.unreadable operation)

end SceneRow

namespace Tile

def row (t : Tile) : TileRow :=
  { t with status := t.status.name, data := t.attrs.toJson.print }

def refRow (t : Tile) (x : Scene) : TileRefRow :=
  { id := t.id, sourceId := t.sourceId, data := t.attrs.toJson.print, scene := x.id,
    sceneSourceId := x.sourceId, aoi := x.aoi, sceneData := x.attrs.toJson.print }

end Tile

namespace TileRow

def read (operation : String) (r : TileRow) : Except Error Tile := do
  if Store.leastBudget ≤ r.budget then
    return { r with
      status := ← Status.parse r.status
      attrs := ← readColumn TileAttrs.ofJson? r.data }
  else throw (Store.unreadable operation)

end TileRow

namespace TileRefRow

def read (r : TileRefRow) : Except Error TileRef := do
  let attrs ← readColumn SceneAttrs.ofJson? r.sceneData
  return {
    id := r.id
    sourceId := r.sourceId
    scene := ⟨r.scene, r.sceneSourceId, r.aoi, attrs⟩
    attrs := ← readColumn TileAttrs.ofJson? r.data }

end TileRefRow

end SceneWorkflow
