import SceneWorkflow.Error

/-! The life cycle of scenes and tiles: five statuses and the changes that may be requested. -/

namespace SceneWorkflow

/-- Where a scene or tile stands. -/
inductive Status where
  | new
  | pending
  | done
  | retry
  | failed
deriving DecidableEq, Inhabited

/-- What applying a requested status amounts to. -/
inductive Transition where
  | finish
  | retry
  | requeue
  | fail
  | overwrite (status : Status)
deriving DecidableEq

namespace Status

def all : List Status := [new, pending, done, retry, failed]

def name : Status → String
  | new => "NEW"
  | pending => "PENDING"
  | done => "DONE"
  | retry => "RETRY"
  | failed => "FAILED"

/-- Reads the exact upper-case name. -/
def ofName? (text : String) : Option Status :=
  all.find? fun s => s.name == text

def parse (text : String) : Except Error Status :=
  match ofName? text with
  | some s => .ok s
  | none => .error (.validation "status" s!"unknown status '{text}'")

theorem ofName?_name (s : Status) : ofName? s.name = some s := by
  cases s <;> rfl

/-- The colour of a node in drawings. -/
def color : Status → String
  | new => "gray"
  | pending => "blue"
  | done => "green"
  | retry => "orange"
  | failed => "red"

/-- Nothing but force leads out of a terminal status. -/
def isTerminal : Status → Bool
  | done => true
  | failed => true
  | _ => false

/-- Whether work on the entity has been handed out and not finished. -/
def isActive : Status → Bool
  | pending => true
  | retry => true
  | _ => false

theorem ne_done_of_isActive {status : Status} (h : status.isActive = true) : status ≠ done := by
  rintro rfl
  cases h

theorem ne_failed_of_isActive {status : Status} (h : status.isActive = true) : status ≠ failed := by
  rintro rfl
  cases h

/-- A forced request is always carried out. -/
def forced : Status → Transition
  | done => .finish
  | failed => .fail
  | pending => .requeue
  | new => .overwrite new
  | retry => .overwrite retry

/-- An unforced request moves only entities whose work has been handed out. -/
def unforced : Status → Status → Option Transition
  | pending, done => some .finish
  | retry, done => some .finish
  | pending, failed => some .fail
  | retry, failed => some .fail
  | pending, retry => some .retry
  | retry, pending => some .requeue
  | _, _ => none

/-- What a request for a status means in the present one; `none` rejects it. -/
def transition (present requested : Status) (force : Bool) : Option Transition :=
  if force then some requested.forced else present.unforced requested

theorem transition_unforced (present requested : Status) :
    present.transition requested false = present.unforced requested := rfl

theorem unforced_terminal {present : Status} (h : present.isTerminal = true)
    (requested : Status) : present.unforced requested = none := by
  cases present <;> first | rfl | contradiction

/-- Only work that has been handed out moves without force. -/
theorem isActive_of_unforced {present requested : Status} {change : Transition}
    (h : present.unforced requested = some change) : present.isActive = true := by
  cases present with
  | new | done | failed => cases h
  | pending | retry => rfl

/-- Nothing is overwritten without force. -/
theorem unforced_ne_overwrite (present requested status : Status) :
    present.unforced requested ≠ some (.overwrite status) := by
  cases present <;> cases requested <;> nofun

/-- What fails without force was asked to. -/
theorem eq_failed_of_unforced {present requested : Status}
    (h : present.unforced requested = some .fail) : requested = .failed := by
  cases present <;> cases requested <;> first | rfl | cases h

/-- The weight of a status when many are rolled up into one: unfinished work outweighs finished
work, and work that waits for an operator outweighs all. -/
def weight : Status → Nat
  | failed => 0
  | done => 1
  | new => 2
  | pending => 3
  | retry => 4

end Status

end SceneWorkflow
