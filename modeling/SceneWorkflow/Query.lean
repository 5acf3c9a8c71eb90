import SceneWorkflow.Drawing
import SceneWorkflow.World

/-! The operations that only look. They go straight to the store. -/

namespace SceneWorkflow.Query

open Operation

variable {σ : Type}

def aoi (name : String) : Operation σ Aoi := query .aoi fun s => s.getAoi name

def aois (pattern : Option String) : Operation σ (List Aoi) := query .aois fun s => s.listAois pattern

def scene (id : Int) : Operation σ Scene := query .scene fun s => s.getScene id

def scenes (aoi : String) (status : Option Status) : Operation σ (List Scene) :=
  query .scenes fun s => s.listScenes aoi status

def sceneId (aoi sourceId : String) : Operation σ (Option Int) :=
  query .sceneId fun s => .ok (s.sceneId? aoi sourceId)

def tile (id : Int) : Operation σ Tile := query .tile fun s => s.getTile id

def tiles (filter : TileFilter) : Operation σ (List Tile) := query .tiles fun s => s.listTiles filter

def sceneStatusCounts (aoi : String) : Operation σ StatusCounts :=
  query .sceneStatusCounts fun s => .ok (s.sceneCounts aoi)

def tileStatusCounts (aoi : String) : Operation σ StatusCounts :=
  query .tileStatusCounts fun s => .ok (s.tileCounts aoi)

def rootTiles (aoi : String) : Operation σ (List TileRef) :=
  query .rootTiles fun s => .ok (s.rootTiles aoi)

def leafTiles (aoi : String) : Operation σ (List TileRef) :=
  query .leafTiles fun s => .ok (s.leafTiles aoi)

def pendingJobs (limit : Int) : Operation σ (List QueuedJob) :=
  query .pendingJobs fun s => .ok (s.pendingJobs limit)

def ackJobs (ids : List Int) : Operation σ Unit := invoke .ackJobs fun s => .ok ((), s.ackJobs ids)

def drawing (aoi : String) : Operation σ String := do
  let area : Aoi ← Query.aoi aoi
  let scenes ← Query.scenes area.id none
  let tiles ← Query.tiles { aoi := some area.id }
  return drawGraph area.id scenes tiles

end SceneWorkflow.Query
