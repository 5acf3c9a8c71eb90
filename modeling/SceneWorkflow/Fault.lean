import SceneWorkflow.Schedule
import SceneWorkflow.Store.Call

/-! Disturbances of the store: for each of its methods, a plan of calls that are refused and of calls
after which the running operation is cancelled. What the database refuses of its own accord counts among
the refused calls: writing to a store that can only be read, and a statement of more than 32766 variables,
as taking that many jobs out of the outbox or setting the status of that many tiles at once would be. -/

namespace SceneWorkflow

/-- The methods of the store, those of a unit of work included. -/
inductive Method where
  | begin
  | createAoi
  | aoi
  | aois
  | scene
  | scenes
  | sceneId
  | sceneStatusCounts
  | tile
  | tiles
  | tileStatusCounts
  | rootTiles
  | leafTiles
  | pendingJobs
  | ackJobs
  | within (call : CallKind)
  | commit
  | rollback
deriving DecidableEq

namespace Method

def all : List Method :=
  [begin, createAoi, aoi, aois, scene, scenes, sceneId, sceneStatusCounts, tile, tiles,
    tileStatusCounts, rootTiles, leafTiles, pendingJobs, ackJobs] ++
    CallKind.all.map within ++ [commit, rollback]

def name : Method → String
  | begin => "begin"
  | createAoi => "create_aoi"
  | aoi => "aoi"
  | aois => "aois"
  | scene => "scene"
  | scenes => "scenes"
  | sceneId => "scene_id"
  | sceneStatusCounts => "scene_status_counts"
  | tile => "tile"
  | tiles => "tiles"
  | tileStatusCounts => "tile_status_counts"
  | rootTiles => "root_tiles"
  | leafTiles => "leaf_tiles"
  | pendingJobs => "pending_jobs"
  | ackJobs => "ack_jobs"
  | within call => "tx_" ++ call.name
  | commit => "tx_commit"
  | rollback => "tx_rollback"

def ofName? (text : String) : Option Method := all.find? fun m => m.name == text

/-- The error of a call that is refused. -/
def refusal (m : Method) : Error := .database m.name "injected fault"

end Method

/-- What befalls a call. -/
inductive Fault where
  /-- The call is not made and fails. -/
  | refuse
  /-- The call is made, and then the operation is cancelled. -/
  | cancel
deriving DecidableEq

/-- The plan of each method; calls without a plan are left alone. -/
abbrev Faults := List (Method × Schedule (Option Fault))

namespace Faults

def plan (faults : Faults) (m : Method) : Schedule (Option Fault) :=
  (faults.lookup m).getD []

def set (faults : Faults) (m : Method) (plan : Schedule (Option Fault)) : Faults :=
  (m, plan) :: List.filter (fun e => e.1 != m) faults

theorem plan_set (faults : Faults) (m n : Method) (plan : Schedule (Option Fault)) :
    (faults.set m plan).plan n = if n = m then plan else faults.plan n := by
  unfold Faults.plan set
  by_cases h : n = m
  · simp [h]
  · have hnm : (n == m) = false := by simp [h]
    have hf : List.lookup n (List.filter (fun e => e.1 != m) faults) = List.lookup n faults := by
      induction faults with
      | nil => rfl
      | cons e rest ih =>
        obtain ⟨k, v⟩ := e
        by_cases hk : k = m
        · subst hk; simp [List.lookup_cons, hnm, ih]
        · simp [List.lookup_cons, hk, ih]
    simp [List.lookup_cons, h, hnm, hf]

/-- What befalls this call of a method, and the plans that are left. -/
def next (faults : Faults) (m : Method) : Option Fault × Faults :=
  match (faults.plan m).next? with
  | some (fault, plan) => (fault, faults.set m plan)
  | none => (none, faults)

end Faults

end SceneWorkflow
