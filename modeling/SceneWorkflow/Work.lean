import SceneWorkflow.Program
import SceneWorkflow.Store.Call

/-! The body of a unit of work: a program of calls on the store. It may give up with an error, and it
may ask for a scene it has seen before without asking the store again. -/

namespace SceneWorkflow

inductive Instruction where
  | call (c : Call)
  /-- Gives up. -/
  | fail (e : Error)
  /-- Asks what is known of a scene. -/
  | known (scene : Int)
  /-- Takes note of a scene as the unit of work has just left it. -/
  | remember (note : SceneNote)

def Instruction.Answer : Instruction → Type
  | call c => c.Answer
  | fail _ => Empty
  | known _ => SceneNote
  | remember _ => Unit

abbrev Work : Type → Type := Program Instruction Instruction.Answer

namespace Work

def call (c : Call) : Work c.Answer := Program.perform (Instruction.call c)

def fail (e : Error) : Work α := Program.step (Instruction.fail e) nofun

def known (scene : Int) : Work SceneNote := Program.perform (Instruction.known scene)

def remember (note : SceneNote) : Work Unit := Program.perform (Instruction.remember note)

def aoi (name : String) : Work Aoi := call (.aoi name)

def scene (id : Int) : Work Scene := call (.scene id)

def sceneId (aoi sourceId : String) : Work (Option Int) := call (.sceneId aoi sourceId)

def createScene (draft : SceneDraft) : Work Int := call (.createScene draft)

def updateScene (id : Int) (update : StatusUpdate) : Work Unit := call (.updateScene id update)

def updateSceneAttrs (id : Int) (attrs : SceneAttrs) : Work Unit :=
  call (.updateSceneAttrs id attrs)

def tile (id : Int) : Work Tile := call (.tile id)

def sceneTiles (scene : Int) : Work (List Tile) := call (.sceneTiles scene)

def createTile (draft : TileDraft) : Work Int := call (.createTile draft)

def updateTile (id : Int) (update : StatusUpdate) : Work Unit := call (.updateTile id update)

def updateTileAttrs (id : Int) (attrs : TileAttrs) : Work Unit := call (.updateTileAttrs id attrs)

def setTilesStatus (ids : List Int) (status : Status) : Work Unit :=
  call (.setTilesStatus ids status)

def unblockNextTiles (previous : Int) : Work (List Tile) := call (.unblockNextTiles previous)

def unblockSceneTiles (scene : Int) : Work (List Tile) := call (.unblockSceneTiles scene)

def unblockSceneRootTiles (scene : Int) : Work (List Tile) := call (.unblockSceneRootTiles scene)

def reparentNextTiles (old : Int) (new : Option Int) : Work (List Int) :=
  call (.reparentNextTiles old new)

def referencingTiles (reference : Int) : Work (List Tile) := call (.referencingTiles reference)

def reassignReference (old new : Int) : Work Unit := call (.reassignReference old new)

def refreshAoiStatus (aoi : String) : Work Status := call (.refreshAoiStatus aoi)

def enqueueJob (topic : Topic) (payload : String) : Work Unit := call (.enqueueJob topic payload)

end Work

/-- The scenes a unit of work knows, the latest note first. -/
abbrev Notes := List SceneNote

def Notes.find? (notes : Notes) (scene : Int) : Option SceneNote :=
  List.find? (fun n => n.ref.id == scene) notes

/-- A unit of work in progress: the store as it would be committed, and the scenes it knows. -/
structure Draft where
  store : Store
  notes : Notes := []

namespace Work

/-- The effect of an instruction when every scene is read from the store each time. -/
def execInstruction : (i : Instruction) → StateT Store (Except Error) i.Answer
  | .call c => c.perform
  | .fail e => fun _ => .error e
  | .known id => fun s => (s.getScene id).map fun x => (x.note, s)
  | .remember _ => pure ()

/-- The effect of a body on the store, without disturbance. -/
def exec (w : Work α) (s : Store) : Except Error (α × Store) :=
  (w.interpret execInstruction).run s

theorem exec_bind (w : Work α) (f : α → Work β) (s : Store) :
    (w >>= f).exec s = (w.exec s).bind fun r => (f r.1).exec r.2 := by
  simp only [exec, Program.interpret_bind, StateT.run_bind]
  rfl

theorem exec_pure (a : α) (s : Store) : (pure a : Work α).exec s = .ok (a, s) := rfl

theorem exec_call (c : Call) (s : Store) : (call c).exec s = c.perform s :=
  congrFun (Program.interpret_perform execInstruction (Instruction.call c)) s

end Work

end SceneWorkflow
