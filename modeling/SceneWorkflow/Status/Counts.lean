import SceneWorkflow.Status

/-! How many entities stand in each status, and the one status that stands for all of them. -/

namespace SceneWorkflow

structure StatusCounts where
  new : Int := 0
  pending : Int := 0
  done : Int := 0
  retry : Int := 0
  failed : Int := 0
deriving DecidableEq, Inhabited

namespace StatusCounts

def get (c : StatusCounts) : Status → Int
  | .new => c.new
  | .pending => c.pending
  | .done => c.done
  | .retry => c.retry
  | .failed => c.failed

def set (c : StatusCounts) (s : Status) (n : Int) : StatusCounts :=
  match s with
  | .new => { c with new := n }
  | .pending => { c with pending := n }
  | .done => { c with done := n }
  | .retry => { c with retry := n }
  | .failed => { c with failed := n }

theorem get_set (c : StatusCounts) (s r : Status) (n : Int) :
    (c.set s n).get r = if r = s then n else c.get r := by
  cases s <;> cases r <;> simp [get, set]

def ofList (xs : List Status) : StatusCounts :=
  Status.all.foldl (fun c s => c.set s (xs.count s)) {}

theorem get_ofList (xs : List Status) (s : Status) : (ofList xs).get s = xs.count s := by
  simp only [ofList, Status.all, List.foldl_cons, List.foldl_nil, get_set]
  cases s <;> rfl

/-- Adds two 64-bit counts; `none` when the sum leaves the range. -/
def add64? (a b : Int) : Option Int :=
  let sum := a + b
  if -9223372036854775808 ≤ sum ∧ sum ≤ 9223372036854775807 then some sum else none

/-- The sum over all statuses, added up in order within 64 bits. -/
def total? (c : StatusCounts) : Option Int :=
  Status.all.foldlM (fun sum s => add64? sum (c.get s)) 0

/-- The heaviest status that occurs. -/
def aggregate (c : StatusCounts) : Option Status :=
  [Status.retry, .pending, .new, .done, .failed].find? fun s => decide (0 < c.get s)

theorem aggregate_eq_none_iff (c : StatusCounts) :
    c.aggregate = none ↔ ∀ s, c.get s ≤ 0 := by
  simp only [aggregate, List.find?_eq_none, List.mem_cons, List.not_mem_nil, or_false,
    decide_eq_true_eq, Int.not_lt]
  constructor
  · intro h s
    cases s <;> simp [h]
  · intro h s _
    exact h s

end StatusCounts

end SceneWorkflow
