import QualityGate.CommandLine.Execution

/-!
# The program

Reads the files that a command may look at, runs the command, and then writes and prints what it
came to. A file that turns out not to be writable is told to the command, which is then run once
more.
-/

namespace QualityGate.CommandLine

/-- The files that a command may read. -/
def Command.inputs : Command → List String
  | .evaluate request => [request.config, request.document]
  | .init _ => []
  | .validate config => [config]

/-- The text of a file, if it can be read. -/
def readFile? (path : String) : IO (Option String) := do
  try return some (← IO.FS.readFile path)
  catch _ => return none

/-- Writes files. Returns the paths of those that cannot be written. -/
def writeFiles (files : List (String × String)) : IO (List String) := do
  let mut refused := []
  for (path, text) in files do
    try IO.FS.writeFile path text
    catch _ => refused := path :: refused
  return refused

/-- How the program is used. -/
def usageText : String :=
  "Evaluate quality-gate checks against JSON documents\n\n"
    ++ "Usage: qgate evaluate --document <PATH> [OPTIONS]\n"
    ++ "       qgate init [PATH]\n"
    ++ "       qgate validate [--config <PATH>]\n"

/-- Runs a command on the files of the system. Returns the code with which the program ends. -/
def Command.perform [Readers] (c : Command) : IO UInt32 := do
  let texts ← c.inputs.mapM fun path => return (path, ← readFile? path)
  let terminal ← (← IO.getStdout).isTty
  let files : Files := ⟨fun path => (texts.lookup path).join, fun _ => true⟩
  let refused ← writeFiles (c.run files terminal).written
  let outcome := c.run { files with isWritable := fun path => !refused.contains path } terminal
  IO.print outcome.output
  IO.eprint outcome.errors
  match outcome.exitCode, outcome.problem with
  | some code, _ => return code.toUInt32
  | none, some problem =>
    IO.eprintln ("Error: " ++ problem.render)
    return 1
  | none, none => return 0

end QualityGate.CommandLine

/-- Runs the command of a command line. -/
def main (args : List String) : IO UInt32 := do
  match QualityGate.CommandLine.Command.read args with
  | .ok command => command.perform
  | .error fault =>
    if fault.isRequest then
      IO.print QualityGate.CommandLine.usageText
      return 0
    else
      IO.eprint QualityGate.CommandLine.usageText
      return 2
