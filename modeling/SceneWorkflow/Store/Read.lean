import SceneWorkflow.Store.Basic
import SceneWorkflow.Text.Glob

/-! What can be read from the store. A row whose budget has fallen below 32 bits cannot be read any
more. -/

namespace SceneWorkflow.Store

/-- The least budget that can be read. -/
def leastBudget : Int := -2147483648

def unreadable (operation : String) : Error :=
  .database operation
    "error occurred while decoding column \"retry_countdown\": number too small to fit in target type"

/-- Rows that are read together: all of them, or none if one cannot be read. -/
def readable (operation : String) (budget : α → Int) (rows : List α) : Except Error (List α) :=
  if rows.all fun row => decide (leastBudget ≤ budget row) then .ok rows
  else .error (unreadable operation)

def readScenes (operation : String) (rows : List Scene) : Except Error (List Scene) :=
  readable operation (·.budget) rows

def readTiles (operation : String) (rows : List Tile) : Except Error (List Tile) :=
  readable operation (·.budget) rows

/-- Patterns longer than this many bytes are refused as soon as there is a name to compare. -/
def maxPatternSize : Nat := 50000

def getAoi (s : Store) (name : String) : Except Error Aoi :=
  match s.aois.find? name with
  | some status => .ok ⟨name, status⟩
  | none => .error (.aoiNotFound name)

/-- The areas whose names match a pattern, in the order of their names. -/
def listAois (s : Store) (pattern : Option String) : Except Error (List Aoi) :=
  let all := s.aois.entries.map fun e => ⟨e.1, e.2⟩
  match pattern with
  | none => .ok all
  | some pattern =>
    if maxPatternSize < pattern.utf8ByteSize ∧ all ≠ [] then
      .error (.database "list_aois"
        "error returned from database: (code: 1) LIKE or GLOB pattern too complex")
    else .ok (all.filter fun a => globMatches pattern a.id)

def getScene (s : Store) (id : Int) : Except Error Scene :=
  match s.scene? id with
  | some x =>
    if leastBudget ≤ x.budget then .ok x else .error (unreadable "get_scene")
  | none => .error (.sceneNotFound (toString id))

def listScenes (s : Store) (aoi : String) (status : Option Status) : Except Error (List Scene) :=
  readScenes "list_scenes" ((s.scenesOf aoi).filter fun x => status.all (x.status == ·))

def sceneId? (s : Store) (aoi sourceId : String) : Option Int :=
  (s.scenes.find? fun x => x.aoi == aoi && x.sourceId == sourceId).map (·.id)

def getTile (s : Store) (id : Int) : Except Error Tile :=
  match s.tile? id with
  | some t =>
    if leastBudget ≤ t.budget then .ok t else .error (unreadable "get_tile")
  | none => .error (.tileNotFound (toString id))

def sceneTiles (s : Store) (scene : Int) : Except Error (List Tile) :=
  readTiles "scene_tiles" (s.tiles.filter fun t => t.scene == scene)

def listTiles (s : Store) (f : TileFilter) : Except Error (List Tile) :=
  readTiles "list_tiles" <|
    (s.tilesWhere fun x => f.aoi.all (x.aoi == ·)).filter fun t =>
      f.scene.all (t.scene == ·) && f.status.all (t.status == ·)

def referencingTiles (s : Store) (reference : Int) : Except Error (List Tile) :=
  readTiles "referencing_tiles" (s.tiles.filter fun t => t.reference == some reference)

/-- Tiles with their scenes, as they are described to workers. -/
def describe (s : Store) (tiles : List Tile) : List TileRef :=
  tiles.filterMap fun t => (s.scene? t.scene).map fun x => t.refIn x.ref

/-- The tiles of an area that have not failed and build on no other tile. -/
def rootTiles (s : Store) (aoi : String) : List TileRef :=
  s.describe <| (s.tilesWhere fun x => x.aoi == aoi).filter fun t =>
    t.status != .failed && t.isRoot

/-- The tiles of an area that have not failed and that no tile follows. -/
def leafTiles (s : Store) (aoi : String) : List TileRef :=
  s.describe <| (s.tilesWhere fun x => x.aoi == aoi).filter fun t =>
    t.status != .failed && !s.tiles.any fun next => next.previous == some t.id

/-- The waiting jobs in the order of their ids, up to a number of them that is not negative. -/
def pendingJobs (s : Store) (limit : Int) : List QueuedJob :=
  if limit < 0 then s.outbox else s.outbox.take limit.toNat

end SceneWorkflow.Store
