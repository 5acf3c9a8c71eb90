import SceneWorkflow.Store.Read

/-! How the store changes. Names are unique where they are used to look things up, and no row names
another that does not exist. A change that is refused changes nothing. -/

namespace SceneWorkflow.Store

def missingKey (operation : String) : Error :=
  .database operation "error returned from database: (code: 787) FOREIGN KEY constraint failed"

def takenKey (operation columns : String) : Error :=
  .database operation
    s!"error returned from database: (code: 2067) UNIQUE constraint failed: {columns}"

def createAoi (s : Store) (name : String) : Except Error Store :=
  if s.aois.contains name then .error (.alreadyExists "aoi" name)
  else .ok { s with aois := s.aois.insert name .new }

def createScene (s : Store) (d : SceneDraft) : Except Error (Int × Store) :=
  if (s.sceneId? d.aoi d.sourceId).isSome then
    .error (takenKey "create_scene" "scene.aoi_id, scene.source_id")
  else if s.aois.contains d.aoi then
    let id := s.lastScene + 1
    let row : Scene :=
      { id, sourceId := d.sourceId, aoi := d.aoi, status := d.status, attrs := d.attrs,
        budget := d.budget.toInt }
    .ok (id, { s with scenes := s.scenes ++ [row], lastScene := id })
  else .error (missingKey "create_scene")

def updateScene (s : Store) (id : Int) (u : StatusUpdate) : Except Error Store :=
  if (s.scene? id).isSome then .ok (s.modifyScenes (·.id == id) (·.update u))
  else .error (.sceneNotFound (toString id))

def replaceSceneAttrs (s : Store) (id : Int) (attrs : SceneAttrs) : Except Error Store :=
  if (s.scene? id).isSome then .ok (s.modifyScenes (·.id == id) fun x => { x with attrs })
  else .error (.sceneNotFound (toString id))

def linked? (s : Store) (aoi : String) (l : TileLink) : Option Tile :=
  (s.tilesWhere fun x => x.aoi == aoi && x.sourceId == l.scene).find? fun t =>
    t.sourceId == l.tile

/-- Looks up a link; tiles that failed cannot be built on. -/
def resolve (s : Store) (aoi field : String) : Option TileLink → Except Error (Option Int)
  | none => .ok none
  | some l =>
    match s.linked? aoi l with
    | none => .error (.validation field s!"tile {l.scene}/{l.tile} not found in AOI '{aoi}'")
    | some t =>
      if t.status = .failed then .error (.validation field s!"tile {l.scene}/{l.tile} is FAILED")
      else .ok (some t.id)

/-- Stores a tile under its name, once its links are looked up. -/
def insertTile (s : Store) (d : TileDraft) (previous reference : Option Int) :
    Except Error (Int × Store) :=
  if s.tiles.any fun t => t.scene == d.scene && t.sourceId == d.sourceId then
    .error (takenKey "create_tile" "tile.scene_id, tile.source_id")
  else if (s.scene? d.scene).isSome then
    let id := s.lastTile + 1
    let row : Tile :=
      { id, sourceId := d.sourceId, scene := d.scene, previous, reference, status := .new,
        attrs := d.attrs, budget := d.budget.toInt }
    .ok (id, { s with tiles := s.tiles ++ [row], lastTile := id })
  else .error (missingKey "create_tile")

def createTile (s : Store) (d : TileDraft) : Except Error (Int × Store) := do
  let previous ← s.resolve d.aoi "previous" d.previous
  let reference ← s.resolve d.aoi "reference" d.reference
  s.insertTile d previous reference

def updateTile (s : Store) (id : Int) (u : StatusUpdate) : Except Error Store :=
  if (s.tile? id).isSome then .ok (s.modifyTiles (·.id == id) (·.update u))
  else .error (.tileNotFound (toString id))

def replaceTileAttrs (s : Store) (id : Int) (attrs : TileAttrs) : Except Error Store :=
  if (s.tile? id).isSome then .ok (s.modifyTiles (·.id == id) fun t => { t with attrs })
  else .error (.tileNotFound (toString id))

def setTilesStatus (s : Store) (ids : List Int) (status : Status) : Store :=
  s.modifyTiles (fun t => ids.contains t.id) fun t => { t with status }

/-- Puts the tiles that satisfy a condition to PENDING and gives them as they are then. -/
def release (s : Store) (operation : String) (p : Tile → Bool) :
    Except Error (List Tile × Store) := do
  let rows ← readTiles operation <| (s.tiles.filter p).map fun t => { t with status := .pending }
  return (rows, s.modifyTiles p fun t => { t with status := .pending })

/-- Releases the new tiles of downloaded scenes that follow a tile. -/
def unblockNextTiles (s : Store) (previous : Int) : Except Error (List Tile × Store) :=
  s.release "unblock_next_tiles" fun t =>
    t.previous == some previous && t.status == .new &&
      (s.scene? t.scene).any fun x => x.status == .done

/-- Releases the new tiles of a scene that follow a tile that is done. -/
def unblockSceneTiles (s : Store) (scene : Int) : Except Error (List Tile × Store) :=
  s.release "unblock_scene_tiles" fun t =>
    t.scene == scene && t.status == .new &&
      (t.previous.bind s.tile?).any fun previous => previous.status == .done

/-- Releases the new tiles of a scene that follow no tile. -/
def unblockSceneRootTiles (s : Store) (scene : Int) : Except Error (List Tile × Store) :=
  s.release "unblock_scene_root_tiles" fun t =>
    t.scene == scene && t.status == .new && t.previous.isNone

/-- Whether a link that may be absent names a tile that exists. -/
def hasLinked (s : Store) (link : Option Int) : Bool := link.all fun id => (s.tile? id).isSome

/-- Makes the tiles that follow one tile follow another, or none; gives their ids. -/
def reparentNextTiles (s : Store) (old : Int) (new : Option Int) :
    Except Error (List Int × Store) :=
  let ids := (s.tiles.filter fun t => t.previous == some old).map (·.id)
  if ids.isEmpty || s.hasLinked new then
    .ok (ids, s.modifyTiles (·.previous == some old) fun t => { t with previous := new })
  else .error (missingKey "reparent_next_tiles")

/-- Makes the tiles compared with one tile be compared with another, which is itself compared with
the old one no more. -/
def reassignReference (s : Store) (old new : Int) : Except Error Store :=
  if old = new then .ok s
  else
    let freed := s.modifyTiles (fun t => t.id == new && t.reference == some old)
      fun t => { t with reference := none }
    if (freed.tiles.any fun t => t.reference == some old) && !s.hasLinked (some new) then
      .error (missingKey "reassign_reference")
    else
      .ok (freed.modifyTiles (·.reference == some old) fun t => { t with reference := some new })

/-- Brings the status of an area up to date, if the area exists; gives the status. -/
def refreshAoiStatus (s : Store) (aoi : String) : Status × Store :=
  let status := s.aggregate aoi
  (status, if s.aois.contains aoi then { s with aois := s.aois.insert aoi status } else s)

def enqueueJob (s : Store) (topic : Topic) (payload : String) : Store :=
  let id := s.lastJob + 1
  { s with outbox := s.outbox ++ [⟨id, topic, payload⟩], lastJob := id }

def ackJobs (s : Store) (ids : List Int) : Store :=
  { s with outbox := s.outbox.filter fun j => !ids.contains j.id }

end SceneWorkflow.Store
