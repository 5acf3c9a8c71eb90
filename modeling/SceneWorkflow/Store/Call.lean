import SceneWorkflow.Store.Write

/-! The calls that a unit of work may make on the store, with their answers and their effect. -/

namespace SceneWorkflow

inductive CallKind where
  | aoi
  | scene
  | sceneId
  | createScene
  | updateScene
  | updateSceneAttrs
  | tile
  | sceneTiles
  | createTile
  | updateTile
  | updateTileAttrs
  | setTilesStatus
  | unblockNextTiles
  | unblockSceneTiles
  | unblockSceneRootTiles
  | reparentNextTiles
  | referencingTiles
  | reassignReference
  | refreshAoiStatus
  | enqueueJob
deriving DecidableEq

namespace CallKind

def all : List CallKind :=
  [aoi, scene, sceneId, createScene, updateScene, updateSceneAttrs, tile, sceneTiles, createTile,
    updateTile, updateTileAttrs, setTilesStatus, unblockNextTiles, unblockSceneTiles,
    unblockSceneRootTiles, reparentNextTiles, referencingTiles, reassignReference,
    refreshAoiStatus, enqueueJob]

def name : CallKind → String
  | aoi => "aoi"
  | scene => "scene"
  | sceneId => "scene_id"
  | createScene => "create_scene"
  | updateScene => "update_scene"
  | updateSceneAttrs => "update_scene_attrs"
  | tile => "tile"
  | sceneTiles => "scene_tiles"
  | createTile => "create_tile"
  | updateTile => "update_tile"
  | updateTileAttrs => "update_tile_attrs"
  | setTilesStatus => "set_tiles_status"
  | unblockNextTiles => "unblock_next_tiles"
  | unblockSceneTiles => "unblock_scene_tiles"
  | unblockSceneRootTiles => "unblock_scene_root_tiles"
  | reparentNextTiles => "reparent_next_tiles"
  | referencingTiles => "referencing_tiles"
  | reassignReference => "reassign_reference"
  | refreshAoiStatus => "refresh_aoi_status"
  | enqueueJob => "enqueue_job"

end CallKind

inductive Call where
  | aoi (name : String)
  | scene (id : Int)
  | sceneId (aoi sourceId : String)
  | createScene (draft : SceneDraft)
  | updateScene (id : Int) (update : StatusUpdate)
  | updateSceneAttrs (id : Int) (attrs : SceneAttrs)
  | tile (id : Int)
  | sceneTiles (scene : Int)
  | createTile (draft : TileDraft)
  | updateTile (id : Int) (update : StatusUpdate)
  | updateTileAttrs (id : Int) (attrs : TileAttrs)
  | setTilesStatus (ids : List Int) (status : Status)
  | unblockNextTiles (previous : Int)
  | unblockSceneTiles (scene : Int)
  | unblockSceneRootTiles (scene : Int)
  | reparentNextTiles (old : Int) (new : Option Int)
  | referencingTiles (reference : Int)
  | reassignReference (old new : Int)
  | refreshAoiStatus (aoi : String)
  | enqueueJob (topic : Topic) (payload : String)

namespace Call

def kind : Call → CallKind
  | aoi _ => .aoi
  | scene _ => .scene
  | sceneId _ _ => .sceneId
  | createScene _ => .createScene
  | updateScene _ _ => .updateScene
  | updateSceneAttrs _ _ => .updateSceneAttrs
  | tile _ => .tile
  | sceneTiles _ => .sceneTiles
  | createTile _ => .createTile
  | updateTile _ _ => .updateTile
  | updateTileAttrs _ _ => .updateTileAttrs
  | setTilesStatus _ _ => .setTilesStatus
  | unblockNextTiles _ => .unblockNextTiles
  | unblockSceneTiles _ => .unblockSceneTiles
  | unblockSceneRootTiles _ => .unblockSceneRootTiles
  | reparentNextTiles _ _ => .reparentNextTiles
  | referencingTiles _ => .referencingTiles
  | reassignReference _ _ => .reassignReference
  | refreshAoiStatus _ => .refreshAoiStatus
  | enqueueJob _ _ => .enqueueJob

/-- What a call is answered with when it succeeds. -/
def Answer : Call → Type
  | aoi _ => Aoi
  | scene _ => Scene
  | sceneId _ _ => Option Int
  | createScene _ => Int
  | updateScene _ _ => Unit
  | updateSceneAttrs _ _ => Unit
  | tile _ => Tile
  | sceneTiles _ => List Tile
  | createTile _ => Int
  | updateTile _ _ => Unit
  | updateTileAttrs _ _ => Unit
  | setTilesStatus _ _ => Unit
  | unblockNextTiles _ => List Tile
  | unblockSceneTiles _ => List Tile
  | unblockSceneRootTiles _ => List Tile
  | reparentNextTiles _ _ => List Int
  | referencingTiles _ => List Tile
  | reassignReference _ _ => Unit
  | refreshAoiStatus _ => Status
  | enqueueJob _ _ => Unit

/-- Whether the call has to wait for the store. One that has nothing to do is answered at once. -/
def waits : Call → Bool
  | setTilesStatus ids _ => !ids.isEmpty
  | reassignReference old new => old != new
  | _ => true

/-- The effect of a call; one that fails has none. -/
def perform : (c : Call) → Store → Except Error (c.Answer × Store)
  | aoi name, s => (s.getAoi name).map (·, s)
  | scene id, s => (s.getScene id).map (·, s)
  | sceneId area name, s => .ok (s.sceneId? area name, s)
  | createScene draft, s => s.createScene draft
  | updateScene id update, s => (s.updateScene id update).map ((), ·)
  | updateSceneAttrs id attrs, s => (s.replaceSceneAttrs id attrs).map ((), ·)
  | tile id, s => (s.getTile id).map (·, s)
  | sceneTiles id, s => (s.sceneTiles id).map (·, s)
  | createTile draft, s => s.createTile draft
  | updateTile id update, s => (s.updateTile id update).map ((), ·)
  | updateTileAttrs id attrs, s => (s.replaceTileAttrs id attrs).map ((), ·)
  | setTilesStatus ids status, s => .ok ((), s.setTilesStatus ids status)
  | unblockNextTiles id, s => s.unblockNextTiles id
  | unblockSceneTiles id, s => s.unblockSceneTiles id
  | unblockSceneRootTiles id, s => s.unblockSceneRootTiles id
  | reparentNextTiles old new, s => s.reparentNextTiles old new
  | referencingTiles id, s => (s.referencingTiles id).map (·, s)
  | reassignReference old new, s => (s.reassignReference old new).map ((), ·)
  | refreshAoiStatus area, s => .ok (s.refreshAoiStatus area)
  | enqueueJob topic payload, s => .ok ((), s.enqueueJob topic payload)

end Call

end SceneWorkflow
