import SceneWorkflow.Service

/-! The command line: settings come from the environment, results from standard input, and jobs go to
standard output as soon as they come up. The store is kept in memory. -/

namespace SceneWorkflow.Service

/-- Writes the lines that have come up, and forgets them. -/
def writeLines (w : World JsonLines) : IO (World JsonLines) := do
  let out ← IO.getStdout
  out.write ⟨w.sink.bytes.toArray⟩
  out.flush
  return { w with sink := {} }

/-- Reads a line; `none` at the end of the input, or where it is not text. -/
def nextLine? (input : IO.FS.Stream) : IO (Option String) := do
  try
    let line ← input.getLine
    return if line.isEmpty then none else some line
  catch _ => return none

/-- Applies the results on the lines of the input to its end. -/
partial def applyLines (config : Config) (input : IO.FS.Stream) (w : World JsonLines) :
    IO (World JsonLines) := do
  match ← nextLine? input with
  | none => return w
  | some line =>
    match result? line with
    | none => applyLines config input w
    | some r => do applyLines config input (← writeLines (apply config w r))

end SceneWorkflow.Service

open SceneWorkflow in
def main : IO UInt32 := do
  let settings ← Config.keys.mapM fun key => return (key, ← IO.getEnv key)
  let env (key : String) : Option String := (settings.lookup key).join
  let files : Service.Location → Option Store
    | .memory => some {}
    | .file _ => none
  match Service.open? Service.plain env files with
  | none => do
    IO.eprintln "the service cannot be started with these settings"
    return 1
  | some (config, connection) => do
    let w ← Service.writeLines (Service.start config connection)
    let w ← Service.applyLines config (← IO.getStdin) w
    let _ ← Service.writeLines (Service.relay w)
    return 0
