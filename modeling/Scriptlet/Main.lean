import Scriptlet.CommandLine.Commands

/-!
# The program

The arguments, the environment and the file come from the system, and the response goes back to
it; what the response is, `CommandLine.respond` decides.
-/

open Scriptlet CommandLine

/-- The code with which the system refuses to read a directory. -/
def isDirectoryCode : UInt32 := 21

/-- What is found under a path. -/
def readEntry (path : String) : IO Entry := do
  try
    return .file (← IO.FS.readFile path)
  catch
    | .noFileOrDirectory .. | .noSuchThing .. => return .missing
    | .inappropriateType _ code _ => return if code = isDirectoryCode then .directory else .missing
    | failure => throw failure

/-- The environment variables that make settings, where they are set. -/
def settingVariables : IO (List (String × String)) := do
  let names := [Settings.depthVariable, Settings.permissiveVariable, Settings.checkVariable,
    Settings.levelVariable]
  names.filterMapM fun variableName => do
    return (← IO.getEnv variableName).map fun value => (variableName, value)

/-- Does what the arguments ask for. -/
def main (args : List String) : IO UInt32 := do
  let set ← settingVariables
  let entry ← match neededPath? args with
    | some path => readEntry (Path.ofString path).text
    | none => pure .missing
  let response := respond args (fun variableName => set.lookup variableName) fun _ => entry
  (← IO.getStdout).putStr response.output
  (← IO.getStderr).putStr response.errors
  match response.ending with
  | .ok code => return code.toUInt32
  | .error crash =>
    IO.eprintln crash.message
    return 1
