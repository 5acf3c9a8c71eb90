import SceneWorkflow.Entity
import SceneWorkflow.Request
import SceneWorkflow.Topic

/-! The store: all areas, scenes and tiles, and the jobs that wait to be announced. Scenes, tiles and
jobs are kept in the order of their ids, which count up from one and are not given twice. -/

namespace SceneWorkflow

structure QueuedJob where
  id : Int
  topic : Topic
  payload : String
deriving DecidableEq, Inhabited

structure Store where
  aois : KeyMap Status := .empty
  scenes : List Scene := []
  tiles : List Tile := []
  outbox : List QueuedJob := []
  lastScene : Int := 0
  lastTile : Int := 0
  lastJob : Int := 0
deriving DecidableEq, Inhabited

/-- What a change of status does to the row of a scene or tile. -/
structure StatusUpdate where
  status : Status
  /-- The new message; the old one stays if there is none. -/
  message : Option String := none
  /-- Takes one off the budget. -/
  consume : Bool := false
  /-- Detaches a tile from the one it follows. -/
  clearPrevious : Bool := false
deriving DecidableEq, Inhabited

structure SceneDraft where
  sourceId : String
  aoi : String
  status : Status
  attrs : SceneAttrs := {}
  budget : Int32 := 0
deriving DecidableEq, Inhabited

/-- A tile to be stored. Its links are looked up in the named area. -/
structure TileDraft where
  sourceId : String
  scene : Int
  aoi : String
  previous : Option TileLink := none
  reference : Option TileLink := none
  attrs : TileAttrs := {}
  budget : Int32 := 0
deriving DecidableEq, Inhabited

/-- Which tiles to list; what is not given does not restrict. -/
structure TileFilter where
  aoi : Option String := none
  scene : Option Int := none
  status : Option Status := none
deriving DecidableEq, Inhabited

namespace Scene

def update (u : StatusUpdate) (s : Scene) : Scene :=
  { s with
    status := u.status
    message := u.message.getD s.message
    budget := if u.consume then s.budget - 1 else s.budget }

end Scene

namespace Tile

def update (u : StatusUpdate) (t : Tile) : Tile :=
  { t with
    status := u.status
    message := u.message.getD t.message
    budget := if u.consume then t.budget - 1 else t.budget
    previous := if u.clearPrevious then none else t.previous }

theorem previous_update {u : StatusUpdate} (hclear : u.clearPrevious = false) (t : Tile) :
    (t.update u).previous = t.previous := by
  rw [update, hclear]
  rfl

end Tile

namespace Store

def scene? (s : Store) (id : Int) : Option Scene := s.scenes.find? fun x => x.id == id

def tile? (s : Store) (id : Int) : Option Tile := s.tiles.find? fun t => t.id == id

/-- The area a tile belongs to, through its scene. -/
def aoiOf? (s : Store) (t : Tile) : Option String := (s.scene? t.scene).map (·.aoi)

def scenesOf (s : Store) (aoi : String) : List Scene := s.scenes.filter fun x => x.aoi == aoi

/-- The tiles whose scene satisfies a condition. -/
def tilesWhere (s : Store) (p : Scene → Bool) : List Tile :=
  s.tiles.filter fun t => (s.scene? t.scene).any p

def sceneCounts (s : Store) (aoi : String) : StatusCounts :=
  .ofList ((s.scenesOf aoi).map (·.status))

def tileCounts (s : Store) (aoi : String) : StatusCounts :=
  .ofList ((s.tilesWhere fun x => x.aoi == aoi).map (·.status))

/-- The counts over the tiles of scenes in one status. -/
def tileCountsIn (s : Store) (aoi : String) (status : Status) : StatusCounts :=
  .ofList ((s.tilesWhere fun x => x.aoi == aoi && x.status == status).map (·.status))

/-- The status that stands for an area. While scenes are unfinished they decide; once all are finished
the tiles of the downloaded ones do. -/
def aggregate (s : Store) (aoi : String) : Status :=
  match (s.sceneCounts aoi).aggregate with
  | none => .new
  | some .done => ((s.tileCountsIn aoi .done).aggregate).getD .done
  | some status => status

def modifyTiles (s : Store) (p : Tile → Bool) (f : Tile → Tile) : Store :=
  { s with tiles := s.tiles.map fun t => if p t then f t else t }

def modifyScenes (s : Store) (p : Scene → Bool) (f : Scene → Scene) : Store :=
  { s with scenes := s.scenes.map fun x => if p x then f x else x }

theorem modifyScenes_tiles (s : Store) (p : Scene → Bool) (f : Scene → Scene) :
    (s.modifyScenes p f).tiles = s.tiles := rfl

end Store

end SceneWorkflow
