import SceneWorkflow.Error

/-! The two channels on which jobs are announced. -/

namespace SceneWorkflow

/-- Scene jobs go to download workers, tile jobs to processing workers. -/
inductive Topic where
  | sceneJobs
  | tileJobs
deriving DecidableEq, Inhabited

namespace Topic

def name : Topic → String
  | sceneJobs => "scene-jobs"
  | tileJobs => "tile-jobs"

def parse (text : String) : Except Error Topic :=
  if text = "scene-jobs" then .ok sceneJobs
  else if text = "tile-jobs" then .ok tileJobs
  else .error (.validation "topic" s!"unknown topic '{text}'")

theorem parse_name (t : Topic) : parse t.name = .ok t := by
  cases t <;> rfl

end Topic

end SceneWorkflow
