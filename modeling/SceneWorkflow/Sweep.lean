import SceneWorkflow.Workflow

/-! The retry sweep over an area. It reads what there is to retry, and then requests each scene and each
tile to be queued again. Every step stands by itself, so that other operations may come between them,
and a step that fails does not keep the sweep from going on. -/

namespace SceneWorkflow

namespace Sweep

/-- The steps of a sweep. -/
inductive Step where
  | findAoi (aoi : String)
  | listScenes (aoi : String)
  | listTiles (filter : TileFilter)
  | requeue (kind : EntityKind) (id : Int) (force : Bool)

def Step.Answer : Step → Type
  | findAoi _ => Aoi
  | listScenes _ => List Scene
  | listTiles _ => List Tile
  | requeue _ _ _ => Bool

/-- A program of steps, each of which may fail. -/
abbrev Plan : Type → Type := Program Step fun i => Except Error i.Answer

/-- Takes a step; its failure ends the sweep. -/
def demand (i : Step) : ExceptT Error Plan i.Answer := ExceptT.mk (Program.perform i)

/-- Takes a step and gives its failure as a result. -/
def attempt (i : Step) : ExceptT Error Plan (Except Error i.Answer) :=
  ExceptT.lift (Program.perform i)

/-- How many entities have been queued again, and the first failure that was passed over. -/
structure Tally where
  scenes : Nat := 0
  tiles : Nat := 0
  failure : Option Error := none

namespace Tally

def add (t : Tally) : EntityKind → Tally
  | .scene => { t with scenes := t.scenes + 1 }
  | .tile => { t with tiles := t.tiles + 1 }

def note (t : Tally) (e : Error) : Tally := { t with failure := t.failure.or (some e) }

end Tally

/-- Whether a sweep takes up entities in a status. -/
def isRetryable (force : Bool) (s : Status) : Bool := s == .retry || (force && s == .pending)

/-- Requests entities to be queued again, in turn. Only cancellation ends it. -/
def requeueAll (kind : EntityKind) (force : Bool) : List Int → Tally → ExceptT Error Plan Tally
  | [], tally => pure tally
  | id :: rest, tally => do
    match ← attempt (.requeue kind id force) with
    | .ok true => requeueAll kind force rest (tally.add kind)
    | .ok false => requeueAll kind force rest tally
    | .error e => if e.isCancelled then throw e else requeueAll kind force rest (tally.note e)

/-- Lists the tiles of several scenes, passing over scenes whose tiles cannot be listed. -/
def tilesOfScenes : List Int → Tally → ExceptT Error Plan (List Tile × Tally)
  | [], tally => pure ([], tally)
  | id :: rest, tally => do
    let found : Except Error (List Tile) ← attempt (.listTiles { scene := some id })
    match found with
    | .ok tiles => do
      let (others, tally) ← tilesOfScenes rest tally
      return (tiles ++ others, tally)
    | .error e => tilesOfScenes rest (tally.note e)

/-- Lists the tiles a sweep looks at: those in RETRY, or, if it is forced, those of the scenes that were
done when it began. -/
def listTiles (aoi : String) (scenes : List Scene) (tally : Tally) (force : Bool) :
    ExceptT Error Plan (List Tile × Tally) :=
  if force then
    tilesOfScenes ((scenes.filter fun s => s.status == .done).map (·.id)) tally
  else do
    let tiles : List Tile ← demand (.listTiles { aoi := some aoi, status := some .retry })
    return (tiles, tally)

/-- The sweep over an area. It gives the numbers of scenes and tiles, or the first failure. -/
def plan (aoi : String) (force : Bool) : ExceptT Error Plan Tally := do
  let _ ← demand (.findAoi aoi)
  let scenes : List Scene ← demand (.listScenes aoi)
  let retryScenes := scenes.filter fun s => isRetryable force s.status
  let tally ← requeueAll .scene force (retryScenes.map (·.id)) {}
  let (tiles, tally) ← listTiles aoi scenes tally force
  let retryTiles := tiles.filter fun t => isRetryable force t.status
  let tally ← requeueAll .tile force (retryTiles.map (·.id)) tally
  match tally.failure with
  | some e => throw e
  | none => return tally

variable {σ : Type} [Sink σ]

def takeStep : (i : Step) → Operation σ i.Answer
  | .findAoi aoi => Operation.query .aoi fun s => s.getAoi aoi
  | .listScenes aoi => Operation.query .scenes fun s => s.listScenes aoi none
  | .listTiles filter => Operation.query .tiles fun s => s.listTiles filter
  | .requeue kind id force => updateStatus kind id .pending (some "") force

/-- Takes a step and gives its failure as a result. -/
def tryStep (i : Step) : Operation σ (Except Error i.Answer) := Operation.attempt (takeStep i)

end Sweep

variable {σ : Type} [Sink σ]

/-- Retries the scenes and tiles of an area that are parked, or, if it is forced, those handed out, too.
Every scene and tile is a unit of work of its own. -/
def retryAoi (aoi : String) (force : Bool) : Operation σ Sweep.Tally := do
  Operation.give (← (Sweep.plan aoi force).run.interpret Sweep.tryStep)

end SceneWorkflow
