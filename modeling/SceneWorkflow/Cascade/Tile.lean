import SceneWorkflow.Cascade.Job

/-! What a change of a tile's status entails. A finished tile starts those that waited for it. A failed
tile is taken out of the graph: its followers follow its predecessor, and tiles that were compared
with it are compared with another. -/

namespace SceneWorkflow.Cascade

/-- Marks a tile as done and starts the tiles that waited for it. -/
def finishTile (t : Tile) (message : Option String) : Work Unit := do
  Work.updateTile t.id { status := .done, message }
  let next ← Work.unblockNextTiles t.id
  next.forM queueTile

/-- Queues a tile again while its budget lasts, and parks it for an operator then. -/
def retryTile (t : Tile) (message : Option String) : Work Unit :=
  if 0 < t.budget then do
    Work.updateTile t.id { status := .pending, message, consume := true }
    queueTile t
  else Work.updateTile t.id { status := .retry, message }

/-- Why a tile cannot be queued again. -/
def notRequeued (t : Tile) (reason : String) : Error :=
  .invalidState "tile" (toString t.id) s!"cannot retry while {reason}"

/-- The tile before this one has to be done. -/
def requirePreviousDone (t : Tile) : Work Unit :=
  match t.previous with
  | none => pure ()
  | some id => do
    let previous ← Work.tile id
    if previous.status = .done then pure ()
    else Work.fail (notRequeued t s!"previous tile {id} is {previous.status.name}")

/-- Queues a tile again. Its scene has to be done unless the request is forced. -/
def requeueTile (t : Tile) (scene : Status) (message : Option String) (force : Bool) : Work Unit := do
  requirePreviousDone t
  if force || scene == .done then
    Work.updateTile t.id { status := .pending, message }
    queueTile t
  else Work.fail (notRequeued t s!"its scene is {scene.name}")

def notFailed (id : Int) (details : String) : Error :=
  .invariantViolation "fail_tile" s!"tile {id}: {details}"

/-- A tile that failed would not be followed any more, nor would one of another scene that failed. The
tiles of a failing scene are taken out one after the other. -/
def requirePreviousAlive (t : Tile) : Work Unit :=
  match t.previous with
  | none => pure ()
  | some id => do
    let previous ← Work.tile id
    if previous.status = .failed then Work.fail (notFailed t.id s!"previous tile {id} is FAILED")
    else
      let scene ← Work.known previous.scene
      if previous.scene ≠ t.scene ∧ scene.status = .failed then
        Work.fail (notFailed t.id s!"scene {previous.scene} of previous tile is FAILED")
      else pure ()

/-- The first of several tiles whose scene has not failed. -/
def firstInLiveScene : List Int → Work (Option Int)
  | [] => pure none
  | id :: rest => do
    let t ← Work.tile id
    let scene ← Work.known t.scene
    if scene.status = .failed then firstInLiveScene rest else return some t.id

/-- The first of several tiles that has not failed, nor has its scene. -/
def firstLive : List Tile → Work (Option Int)
  | [] => pure none
  | t :: rest =>
    if t.status = .failed then firstLive rest
    else do
      let scene ← Work.known t.scene
      if scene.status = .failed then firstLive rest else return some t.id

/-- Chooses the tile that others are compared with in place of a failed one: the first of those that
followed it, else the first of those that were compared with it. -/
def electReference (failed : Int) (dependents : List Int) : Work (Option Int) := do
  match ← firstInLiveScene dependents with
  | some id => return some id
  | none => do
    let candidates ← Work.referencingTiles failed
    firstLive candidates

/-- Hands on the role of a failed tile that was compared with none. -/
def handOverReference (t : Tile) (dependents : List Int) : Work Unit :=
  match t.reference with
  | some _ => pure ()
  | none => do
    match ← electReference t.id dependents with
    | some new => Work.reassignReference t.id new
    | none => pure ()

def previousDone (t : Tile) : Work Bool :=
  match t.previous with
  | none => pure true
  | some id => do
    let previous ← Work.tile id
    return previous.status == .done

def startable (inheritedDone : Bool) (t : Tile) : Work Bool :=
  if inheritedDone then do
    let scene ← Work.known t.scene
    return scene.status == .done
  else return false

/-- Those dependents of a failed tile that can start now. None of them can have started before. -/
def startableDependents (failed : Int) (inheritedDone : Bool) : List Int → Work (List Tile)
  | [] => pure []
  | id :: rest => do
    let t ← Work.tile id
    if t.status ≠ .new then
      Work.fail (notFailed failed s!"dependent tile {id} is {t.status.name}")
    else
      let start ← startable inheritedDone t
      let others ← startableDependents failed inheritedDone rest
      return if start then t :: others else others

/-- Starts the dependents of a failed tile that waited for nothing else. -/
def releaseDependents (t : Tile) (dependents : List Int) : Work Unit := do
  let inheritedDone ← previousDone t
  let released ← startableDependents t.id inheritedDone dependents
  Work.setTilesStatus (released.map (·.id)) .pending
  released.forM queueTile

/-- Marks a tile as failed and takes it out of the graph. -/
def failTile (id : Int) (message : Option String) : Work Unit := do
  let t ← Work.tile id
  requirePreviousAlive t
  Work.updateTile id { status := .failed, message, clearPrevious := true }
  let dependents ← Work.reparentNextTiles id t.previous
  handOverReference t dependents
  releaseDependents t dependents

def applyToTile (t : Tile) (scene : Status) (message : Option String) (force : Bool) :
    Transition → Work Unit
  | .finish => finishTile t message
  | .retry => retryTile t message
  | .requeue => requeueTile t scene message force
  | .fail => failTile t.id message
  | .overwrite status => Work.updateTile t.id { status, message }

/-- Changes the status of a tile as requested; gives whether the request was accepted. -/
def changeTile (id : Int) (requested : Status) (message : Option String) (force : Bool) :
    Work Bool := do
  let t ← Work.tile id
  let scene ← Work.known t.scene
  match t.status.transition requested force with
  | none => return false
  | some transition => do
    applyToTile t scene.status message force transition
    let _ ← Work.refreshAoiStatus scene.ref.aoi
    return true

end SceneWorkflow.Cascade
