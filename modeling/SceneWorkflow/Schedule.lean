/-! Finite plans: what is to happen the next times something is done. -/

namespace SceneWorkflow

/-- A plan in runs: each entry holds for a number of times, then the next one does. -/
abbrev Schedule (α : Type) := List (Nat × α)

namespace Schedule

/-- What holds this time, and the plan that is left; `none` once the plan is used up. -/
def next? : Schedule α → Option (α × Schedule α)
  | [] => none
  | (0, _) :: rest => next? rest
  | (n + 1, a) :: rest => some (a, (n, a) :: rest)

/-- How many times are left in all. -/
def size : Schedule α → Nat
  | [] => 0
  | (n, _) :: rest => n + size rest

end Schedule

end SceneWorkflow
