import SceneWorkflow.Cascade.Scene
import SceneWorkflow.Ingestion
import SceneWorkflow.Text.Blank
import SceneWorkflow.UnitOfWork

/-! The operations that change the workflow. Each runs as one unit of work, unless it says otherwise. -/

namespace SceneWorkflow

open Operation

variable {σ : Type}

/-- Creates an area. This is one change of the store by itself, and cannot be cancelled. -/
def createAoi (name : String) : Operation σ Unit :=
  if isBlankText name then throw (.validation "aoi" "must not be empty")
  else invoke .createAoi fun s => (s.createAoi name).map ((), ·)

variable [Sink σ]

/-- Takes up a scene and its tiles, and queues its download. -/
def ingestScene (aoi : String) (r : SceneRequest) : Operation σ Int := do
  give (r.validate aoi)
  transact "ingest_scene" (Ingestion.insertScene r)

/-- Takes up scenes one after the other and adds the ids of new ones to those known. Scenes that the
area holds already are passed over; any other failure ends it. -/
def ingestRemaining (aoi : String) :
    List SceneRequest → KeyMap Int → Operation σ (KeyMap Int)
  | [], created => pure created
  | r :: rest, created => do
    match ← attempt (ingestScene aoi r) with
    | .ok id => ingestRemaining aoi rest (created.insert r.sourceId id)
    | .error e => if e.isAlreadyExists then ingestRemaining aoi rest created else throw e

/-- Takes up several scenes, each in a unit of work of its own; gives the ids of new ones by name. -/
def ingestScenes (aoi : String) (rs : List SceneRequest) : Operation σ (KeyMap Int) :=
  ingestRemaining aoi rs .empty

/-- Requests a status for a scene; gives whether the request was accepted. -/
def updateSceneStatus (id : Int) (status : Status) (message : Option String) (force : Bool) :
    Operation σ Bool :=
  transact "update_scene_status" (Cascade.changeScene id status message force)

def updateTileStatus (id : Int) (status : Status) (message : Option String) (force : Bool) :
    Operation σ Bool :=
  transact "update_tile_status" (Cascade.changeTile id status message force)

def updateStatus (kind : EntityKind) (id : Int) (status : Status) (message : Option String)
    (force : Bool) : Operation σ Bool :=
  match kind with
  | .scene => updateSceneStatus id status message force
  | .tile => updateTileStatus id status message force

/-- Applies what a worker reports. Reports are never forced. -/
def handleResult (r : WorkerResult) : Operation σ Bool :=
  updateStatus r.kind r.id r.status (some r.message) false

def updateSceneAttrs (id : Int) (attrs : SceneAttrs) : Operation σ Unit :=
  transact "update_scene_attrs" (Work.updateSceneAttrs id attrs)

def updateTileAttrs (id : Int) (attrs : TileAttrs) : Operation σ Unit :=
  transact "update_tile_attrs" (Work.updateTileAttrs id attrs)

def flushOutbox : Operation σ Nat := do
  Outbox.flush (← get).batchSize

end SceneWorkflow
