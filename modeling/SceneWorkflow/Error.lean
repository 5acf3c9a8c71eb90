/-! Causes of failure: what went wrong, under which code it is reported, how it reads, and whether
trying again can help. -/

namespace SceneWorkflow

/-- A cause of failure. The fields are the names its text quotes. -/
inductive Error where
  | sceneNotFound (id : String)
  | tileNotFound (id : String)
  | aoiNotFound (id : String)
  | alreadyExists (kind id : String)
  | invalidState (entity id details : String)
  | invariantViolation (operation details : String)
  | validation (field message : String)
  | database (operation details : String)
  | publish (operation details : String)
  | cancelled (operation : String)
deriving DecidableEq, Inhabited

namespace Error

/-- The stable code under which a cause is reported. -/
def code : Error → String
  | sceneNotFound _ => "SCENE_NOT_FOUND"
  | tileNotFound _ => "TILE_NOT_FOUND"
  | aoiNotFound _ => "AOI_NOT_FOUND"
  | alreadyExists _ _ => "ALREADY_EXISTS"
  | invalidState _ _ _ => "INVALID_STATE"
  | invariantViolation _ _ => "INVARIANT_VIOLATION"
  | validation _ _ => "VALIDATION_ERROR"
  | database _ _ => "DATABASE_ERROR"
  | publish _ _ => "PUBLISH_ERROR"
  | cancelled _ => "CANCELLED"

/-- The text shown to people. -/
def message : Error → String
  | sceneNotFound id => s!"Scene '{id}' not found"
  | tileNotFound id => s!"Tile '{id}' not found"
  | aoiNotFound id => s!"AOI '{id}' not found"
  | alreadyExists kind id => s!"{kind} '{id}' already exists"
  | invalidState entity id details => s!"{entity} '{id}' is in invalid state: {details}"
  | invariantViolation operation details => s!"Invariant violated during '{operation}': {details}"
  | validation field message => s!"Validation error for '{field}': {message}"
  | database operation details => s!"Database error during '{operation}': {details}"
  | publish operation details => s!"Publish error on '{operation}': {details}"
  | cancelled operation => s!"Operation '{operation}' was cancelled"

/-- Only failures of the store and of publication may pass by themselves. -/
def isRetryable : Error → Bool
  | database _ _ => true
  | publish _ _ => true
  | _ => false

def isCancelled : Error → Bool
  | cancelled _ => true
  | _ => false

def isAlreadyExists : Error → Bool
  | alreadyExists _ _ => true
  | _ => false

end Error

end SceneWorkflow
