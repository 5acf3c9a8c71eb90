import SceneWorkflow.Cascade.Job

/-! Taking up scenes: which requests describe a scene that hangs together, and how a scene and its
tiles are stored. Tiles are stored after the tiles of their scene that they build on. -/

namespace SceneWorkflow

namespace SceneRequest

/-- Refuses a request that does not fit the area or contradicts itself. -/
def validate (r : SceneRequest) (aoi : String) : Except Error Unit :=
  if r.aoi ≠ aoi then
    .error (.validation "aoi" s!"scene targets AOI '{r.aoi}', not '{aoi}'")
  else if r.sourceId = "" then .error (.validation "source_id" "must not be empty")
  else if r.tiles.size = 0 then .error (.validation "tiles" "scene has no tiles")
  else if r.tiles.size ≠ r.attrs.tiles.size then
    .error (.validation "tiles"
      s!"{r.tiles.size} tiles declared but {r.attrs.tiles.size} tile mappings")
  else
    match r.tiles.keys.find? fun name => !r.attrs.tiles.contains name with
    | some name => .error (.validation "tiles" s!"tile '{name}' has no tile mapping")
    | none => .ok ()

end SceneRequest

namespace Ingestion

/-- Whether the tiles of its own scene that a tile builds on have been created. -/
def isReady (scene : String) (created : List String) (tile : TileRequest) : Bool :=
  (tile.linksInto scene).all fun l => created.contains l.tile

def createTile (r : SceneRequest) (scene : Int) (name : String) (tile : TileRequest) : Work Unit := do
  let _ ← Work.createTile
    { sourceId := name, scene, aoi := r.aoi, previous := tile.previous,
      reference := tile.reference, attrs := tile.attrs, budget := r.budget }

/-- Goes through the tiles once and creates those that are ready; gives the names of all created. -/
def createReady (r : SceneRequest) (scene : Int) :
    List (String × TileRequest) → List String → Work (List String)
  | [], created => pure created
  | (name, tile) :: rest, created =>
    if !created.contains name && isReady r.sourceId created tile then do
      createTile r scene name tile
      createReady r scene rest (name :: created)
    else createReady r scene rest created

/-- Goes through the tiles until all are created. Every pass creates one at least, or there are links
that cannot be satisfied. -/
def createTiles (r : SceneRequest) (scene : Int) : Nat → List String → Work Unit
  | 0, _ => pure ()
  | passes + 1, created =>
    if created.length < r.tiles.size then do
      let now ← createReady r scene r.tiles.entries created
      if now.length = created.length then
        Work.fail (.validation "tiles" "tile links within the scene are cyclic or dangling")
      else createTiles r scene passes now
    else pure ()

/-- Stores a scene with its tiles and queues its download; gives its id. -/
def storeScene (r : SceneRequest) : Work Int := do
  let id ← Work.createScene
    { sourceId := r.sourceId, aoi := r.aoi, status := .pending, attrs := r.attrs,
      budget := r.budget }
  createTiles r id r.tiles.size []
  let stored ← Work.scene id
  Cascade.queueScene stored
  let _ ← Work.refreshAoiStatus r.aoi
  return id

/-- Takes up a scene that its area does not hold yet. -/
def insertScene (r : SceneRequest) : Work Int := do
  let _ ← Work.aoi r.aoi
  match ← Work.sceneId r.aoi r.sourceId with
  | some _ => Work.fail (.alreadyExists "scene" r.sourceId)
  | none => storeScene r

end Ingestion

end SceneWorkflow
