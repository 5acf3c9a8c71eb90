import SceneWorkflow.Config
import SceneWorkflow.Consumer
import SceneWorkflow.Sink.JsonLines

/-! The service by itself: it reads worker results as lines, applies them, and writes the jobs that
come up as lines. What an earlier run has left waiting is written first. -/

namespace SceneWorkflow

namespace Service

/-- A store that has been opened: what it holds, and which of the calls to come it refuses or
interrupts. -/
structure Connection where
  store : Store
  faults : Faults := []

/-- The database layer. It opens the store that an address names, with at most so many connections, and
keeps what a run leaves there. How an address is read, whether the store can be written to and how large
a statement may be is up to the layer. -/
structure Databases (δ : Type) where
  connect : String → Nat → δ → Option Connection
  close : String → Store → δ → δ

/-- Cuts bytes into lines at line feeds. -/
def lines : List UInt8 → List (List UInt8)
  | [] => []
  | b :: rest =>
    if b = 10 then [] :: lines rest
    else
      match lines rest with
      | [] => [[b]]
      | line :: others => (b :: line) :: others

/-- The text of a line, without a carriage return at its end; `none` if it is not UTF-8. -/
def text? (line : List UInt8) : Option String :=
  let line := if line.getLast? = some 13 then line.dropLast else line
  String.fromUTF8? (ByteArray.mk line.toArray)

def result? (line : String) : Option WorkerResult := (Json.parse line).bind WorkerResult.ofJson?

/-- The results that lines report. Lines that report none are passed over; one that is not text ends the
input. -/
def results : List (List UInt8) → List WorkerResult
  | [] => []
  | line :: rest =>
    match text? line with
    | none => []
    | some text => (result? text).toList ++ results rest

def relay (w : World JsonLines) : World JsonLines := (Operation.tolerate flushOutbox w).2

/-- Starts the service on a store: what is waiting is written. -/
def start (config : Config) (connection : Connection) : World JsonLines :=
  relay { connection with sink := {}, batchSize := config.batchSize }

def apply (config : Config) (w : World JsonLines) (r : WorkerResult) : World JsonLines :=
  (Consumer.deliver r (max 1 config.maxRedeliveries) w).2

/-- Applies the results that come in from a position on, until there are no more or the service is shut
down. The timer comes up any number of times before each of them, and before the end of the input; then
what is waiting is relayed. -/
def attend (config : Config) (ticks : Nat → Nat) :
    Nat → List WorkerResult → World JsonLines → World JsonLines
  | i, [], w => Nat.repeat relay (ticks i) w
  | i, r :: rest, w =>
    let w := Nat.repeat relay (ticks i) w
    if w.cancelled then w else attend config ticks (i + 1) rest (apply config w r)

/-- Runs the service on lines to their end. -/
def run (config : Config) (ticks : Nat → Nat) (input : List (List UInt8)) (connection : Connection) :
    World JsonLines :=
  relay (attend config ticks 0 (results input) (start config connection))

section
variable {δ : Type} (db : Databases δ) (env : String → Option String)

/-- Reads the settings and opens the store they name; `none` if either fails. -/
def open? (files : δ) : Option (Config × Connection) := do
  let config ← (Config.load env).toOption
  let connection ← db.connect config.databaseUrl config.maxConnections files
  return (config, connection)

/-- Runs the service on its settings and its input, if it can be opened; gives the world at the end and
what the database layer keeps then. -/
def launch (ticks : Nat → Nat) (input : List UInt8) (files : δ) : Option (World JsonLines × δ) :=
  (open? db env files).map fun (config, connection) =>
    let w := run config ticks (lines input) connection
    (w, db.close config.databaseUrl w.store files)

end

/-- What a plain address names. -/
inductive Location where
  | memory
  | file (path : String)
deriving DecidableEq

/-- Reads a plain address: its scheme and a path, without parameters and escapes. -/
def Location.ofUrl? (url : String) : Option Location :=
  let path := url.toList.drop "sqlite:".length
  if !"sqlite:".toList.isPrefixOf url.toList then none
  else if path = ":memory:".toList then some .memory
  else if path.isEmpty || "//".toList.isPrefixOf path || path.any "?%:".toList.contains then none
  else some (.file (String.ofList path))

/-- The layer that knows plain addresses only. What they name takes every call. -/
def plain : Databases (Location → Option Store) where
  connect url _ files := ((Location.ofUrl? url).bind files).map fun store => { store }
  close url s files :=
    match Location.ofUrl? url with
    | some (.file path) => fun location => if location = .file path then some s else files location
    | _ => files

/-- Runs the service on plain files, without the timer. -/
def serve (env : String → Option String) (openStore : Location → Option Store)
    (input : List UInt8) : Option (World JsonLines) :=
  (launch plain env (fun _ => 0) input openStore).map (·.1)

end Service

end SceneWorkflow
