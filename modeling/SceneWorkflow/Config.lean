/-! Settings of the service, read from named variables. Whole numbers are written in decimal digits,
perhaps after a plus sign. -/

namespace SceneWorkflow

inductive ConfigError where
  | missing (key : String)
  | invalid (key reason : String)
deriving DecidableEq

def ConfigError.message : ConfigError → String
  | missing key => s!"missing required environment variable: {key}"
  | invalid key reason => s!"invalid value for {key}: {reason}"

/-- A setting that is a whole number: its variable, its range, its value when the variable is not
set, and what a refused text is told. -/
structure NumberSetting where
  key : String
  least : Nat
  most : Nat
  default : Nat
  reason : String

namespace NumberSetting

/-- Reads decimal digits, after a plus sign if there is one. -/
def digits? (text : String) : Option Nat :=
  let digits := match text.toList with
    | '+' :: rest => rest
    | chars => chars
  if !digits.isEmpty && digits.all Char.isDigit then some (Nat.ofDigitChars 10 digits 0) else none

def parse (s : NumberSetting) (text : String) : Except ConfigError Nat :=
  match digits? text with
  | some n => if s.least ≤ n ∧ n ≤ s.most then .ok n else .error (.invalid s.key s.reason)
  | none => .error (.invalid s.key s.reason)

def load (s : NumberSetting) (env : String → Option String) : Except ConfigError Nat :=
  match env s.key with
  | some text => s.parse text
  | none => .ok s.default

end NumberSetting

structure Config where
  databaseUrl : String
  maxConnections : Nat
  /-- Milliseconds between two attempts to relay waiting jobs. -/
  pollInterval : Nat
  /-- How many waiting jobs are read at once. -/
  batchSize : Nat
  /-- How often the handling of a result is attempted. -/
  maxRedeliveries : Nat
  /-- Milliseconds between two attempts to handle a result. -/
  redeliveryDelay : Nat
deriving DecidableEq, Inhabited

namespace Config

def urlKey : String := "INGESTFLOW_DATABASE_URL"

def connections : NumberSetting where
  key := "INGESTFLOW_MAX_CONNECTIONS"
  least := 1
  most := 4294967295
  default := 5
  reason := "must be a positive integer"

def polling : NumberSetting where
  key := "INGESTFLOW_OUTBOX_POLL_INTERVAL_MS"
  least := 1
  most := 18446744073709551615
  default := 5000
  reason := "must be a positive number of milliseconds"

def batches : NumberSetting where
  key := "INGESTFLOW_OUTBOX_BATCH_SIZE"
  least := 1
  most := 9223372036854775807
  default := 100
  reason := "must be a positive integer"

def redeliveries : NumberSetting where
  key := "INGESTFLOW_MAX_REDELIVERIES"
  least := 0
  most := 4294967295
  default := 3
  reason := "must be a non-negative integer"

def delays : NumberSetting where
  key := "INGESTFLOW_REDELIVERY_DELAY_MS"
  least := 0
  most := 18446744073709551615
  default := 500
  reason := "must be a number of milliseconds"

def keys : List String :=
  [urlKey, connections.key, polling.key, batches.key, redeliveries.key, delays.key]

/-- Reads the settings in turn; the first that cannot be read is reported. -/
def load (env : String → Option String) : Except ConfigError Config := do
  let databaseUrl ← match env urlKey with
    | some url => .ok url
    | none => .error (.missing urlKey)
  let maxConnections ← connections.load env
  let pollInterval ← polling.load env
  let batchSize ← batches.load env
  let maxRedeliveries ← redeliveries.load env
  let redeliveryDelay ← delays.load env
  return { databaseUrl, maxConnections, pollInterval, batchSize, maxRedeliveries, redeliveryDelay }

end Config

end SceneWorkflow
