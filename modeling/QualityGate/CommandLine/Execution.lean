import QualityGate.CommandLine.Command
import QualityGate.CommandLine.Directory
import QualityGate.Json.Parser
import QualityGate.Report.Console
import QualityGate.Report.Document

/-!
# Running commands

What each command prints and writes, given the files around it. An evaluation loads the
configuration, applies what the command line puts in its place, reads the document, runs the gate
and reports; nothing is printed or written if a step before the reports fails.
-/

namespace QualityGate.CommandLine

/-- What a command did: the texts it printed, the files it wrote, the code with which it ended the
process, and its problem, if it failed. -/
structure Outcome where
  output : String
  errors : String
  written : List (String × String)
  exitCode : Option Nat
  problem : Option Problem

namespace Outcome

/-- The outcome of a command that printed something and succeeded. -/
def success (output : String) : Outcome := ⟨output, "", [], none, none⟩

/-- The outcome of a command that failed without a trace. -/
def failure (problem : Problem) : Outcome := ⟨"", "", [], none, some problem⟩

end Outcome

variable [Readers]

/-! ## Configurations -/

/-- Loads a configuration from a file and validates it. -/
def loadConfiguration (files : Files) (path : String) : Except Problem Configuration :=
  match files.read? path with
  | none => .error ⟨"cannot read the file",
      ["reading qgate configuration file '" ++ path ++ "'"]⟩
  | some text => match Configuration.parse? text with
    | none => .error ⟨"not a configuration", ["parsing configuration file '" ++ path ++ "'"]⟩
    | some c => match c.problem? with
      | some problem => .error { problem with
          message := "invalid configuration file '" ++ path ++ "': " ++ problem.message }
      | none => .ok c

namespace Evaluate

/-- The configuration with what the command line puts in the place of its fields. -/
def override (r : Evaluate) (c : Configuration) : Configuration where
  exhaustive := c.exhaustive || r.exhaustive
  timeout := r.timeout.getD c.timeout
  policy := r.policy.getD c.policy
  concatenation := r.concatenation <|> c.concatenation
  checks := c.checks

/-- The configuration of an evaluation. -/
def configuration (r : Evaluate) (files : Files) : Except Problem Configuration := do
  let c ← loadConfiguration files r.config
  (r.override c).validate
  return r.override c

/-- Loads the document of an evaluation. -/
def loadDocument (r : Evaluate) (files : Files) : Except Problem Json :=
  match files.read? r.document with
  | none => .error ⟨"cannot read the file", ["reading document '" ++ r.document ++ "'"]⟩
  | some text => match Json.parse? text with
    | none => .error ⟨"not a JSON text", ["parsing document '" ++ r.document ++ "' as JSON"]⟩
    | some document => .ok document

/-- The report of an evaluation. -/
def report (r : Evaluate) (files : Files) : Except Problem GateReport := do
  let c ← r.configuration files
  let document ← r.loadDocument files
  match c.gate.evaluate document with
  | .ok report => return report
  | .error failure => .error ((Problem.ofFailure failure).within "evaluating checks")

/-- The problem of an evaluation whose verdict is too bad. -/
def verdictProblem? (r : Evaluate) (verdict : Status) : Option Problem :=
  match r.failOn, verdict.signal? with
  | some limit, some signal =>
    if signal ≤ limit then some ⟨"quality gate verdict is " ++ verdict.label, []⟩ else none
  | _, _ => none

/-- Whether labels are coloured. -/
def colourful (r : Evaluate) (terminal : Bool) : Bool :=
  match r.colours with
  | .always => true
  | .never => false
  | .automatic => terminal

/-- Prints and writes the reports of an evaluation. -/
def deliver (r : Evaluate) (files : Files) (terminal : Bool) (report : GateReport) : Outcome :=
  let output := Report.console (r.colourful terminal) report
  match r.json with
  | none => { Outcome.success output with problem := r.verdictProblem? report.verdict }
  | some path =>
    if files.isWritable path then { Outcome.success output with
      written := [(path, Report.document report)]
      problem := r.verdictProblem? report.verdict }
    else { Outcome.success output with
      problem := some ⟨"cannot write the file", ["writing JSON report to '" ++ path ++ "'"]⟩ }

/-- Runs an evaluation. -/
def run (r : Evaluate) (files : Files) (terminal : Bool) : Outcome :=
  match r.report files with
  | .ok report => r.deliver files terminal report
  | .error problem => .failure problem

end Evaluate

/-! ## Commands -/

/-- Writes the default configuration. -/
def runInit (files : Files) (output : Option String) : Outcome :=
  let path := output.getD Configuration.defaultFile
  if files.isWritable path then
    { Outcome.success ("Generated default configuration file: " ++ path ++ "\n") with
      written := [(path, Configuration.defaultText)] }
  else .failure ⟨"cannot write the file", ["writing default configuration to " ++ path]⟩

/-- Checks a configuration. A failure ends the process with code one. -/
def runValidate (files : Files) (path : String) : Outcome :=
  match loadConfiguration files path with
  | .ok c => .success ("Configuration file is valid\nConfig file: " ++ path ++ "\nChecks: "
      ++ toString c.checks.length ++ "\n")
  | .error problem => { Outcome.failure problem with
      errors := "❌ Configuration validation failed: " ++ problem.render ++ "\n"
      exitCode := some 1 }

/-- Runs a command, given the files around it and whether the output is a terminal. -/
def Command.run (c : Command) (files : Files) (terminal : Bool) : Outcome :=
  match c with
  | .evaluate request => request.run files terminal
  | .init output => runInit files output
  | .validate config => runValidate files config

end QualityGate.CommandLine
