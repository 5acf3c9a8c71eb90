import SceneWorkflow.Cascade.Tile

/-! What a change of a scene's status entails. A finished scene starts those of its tiles that wait for
nothing else. A failed scene takes all its tiles with it. -/

namespace SceneWorkflow.Cascade

/-- Marks a scene as done and starts its tiles that follow no tile or a finished one. -/
def finishScene (s : Scene) (message : Option String) : Work Unit := do
  Work.updateScene s.id { status := .done, message }
  Work.remember { s.note with status := .done }
  let heads ← Work.unblockSceneRootTiles s.id
  heads.forM queueTile
  let followers ← Work.unblockSceneTiles s.id
  followers.forM queueTile

/-- Queues a scene again while its budget lasts, and parks it for an operator then. -/
def retryScene (s : Scene) (message : Option String) : Work Unit :=
  if 0 < s.budget then do
    Work.updateScene s.id { status := .pending, message, consume := true }
    queueScene s
  else Work.updateScene s.id { status := .retry, message }

def requeueScene (s : Scene) (message : Option String) : Work Unit := do
  Work.updateScene s.id { status := .pending, message }
  queueScene s

/-- Marks a scene and all its tiles as failed. None of its tiles can have started. -/
def failScene (s : Scene) (message : Option String) : Work Unit := do
  let tiles ← Work.sceneTiles s.id
  match tiles.find? fun t => t.status != .new with
  | some started =>
    Work.fail (.invariantViolation "fail_scene"
      s!"scene {s.id}: tile {started.id} is {started.status.name}")
  | none => do
    Work.updateScene s.id { status := .failed, message }
    Work.remember { s.note with status := .failed }
    tiles.forM fun t => failTile t.id none

def applyToScene (s : Scene) (message : Option String) : Transition → Work Unit
  | .finish => finishScene s message
  | .retry => retryScene s message
  | .requeue => requeueScene s message
  | .fail => failScene s message
  | .overwrite status => Work.updateScene s.id { status, message }

/-- Changes the status of a scene as requested; gives whether the request was accepted. -/
def changeScene (id : Int) (requested : Status) (message : Option String) (force : Bool) :
    Work Bool := do
  let s ← Work.scene id
  match s.status.transition requested force with
  | none => return false
  | some transition => do
    applyToScene s message transition
    let _ ← Work.refreshAoiStatus s.aoi
    return true

end SceneWorkflow.Cascade
