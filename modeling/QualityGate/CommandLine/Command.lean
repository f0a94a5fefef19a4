import QualityGate.CommandLine.Usage
import QualityGate.Configuration.Basic
import QualityGate.Configuration.Default

/-!
# Commands

The commands of the program and how they are read from the words of a command line: `evaluate`
judges a document, `validate` checks a configuration, and `init` writes one to start from.
-/

namespace QualityGate.CommandLine

/-- When labels are coloured. -/
inductive ColourMode where
  | always
  | never
  /-- If the output is a terminal. -/
  | automatic
deriving DecidableEq

/-- What is asked of an evaluation. -/
structure Evaluate where
  config : String
  document : String
  /-- Takes the place of the configured concatenation. -/
  concatenation : Option String
  /-- Searches exhaustively, whatever is configured. -/
  exhaustive : Bool
  /-- Takes the place of the configured timeout. -/
  timeout : Option Nat
  /-- Takes the place of the configured policy. -/
  policy : Option FailurePolicy
  /-- The file for the report as a document. -/
  json : Option String
  /-- The best verdict that counts as a failure, if any does. -/
  failOn : Option Signal
  colours : ColourMode
deriving DecidableEq

/-- A command. -/
inductive Command where
  | evaluate (request : Evaluate)
  | init (output : Option String)
  | validate (config : String)
deriving DecidableEq

namespace Command

/-- The options of `evaluate`. -/
def evaluateForms : List OptionForm := [
  .free "config" (some 'c'),
  .free "document" (some 'd'),
  .free "concatenation" none,
  .switch "continue-search-on-fail",
  ⟨"timeout", none, some fun v =>
    if (Time.Timeout.parse? v).isSome then none else some .unreadableValue⟩,
  .choice "on-error" ["abort", "report"],
  .free "json" none,
  .choice "fail-on" ["never", "yellow", "red"],
  .choice "color" ["always", "never", "auto"],
  .choice "log-level" ["none", "error", "warn", "info", "debug", "trace"]]

/-- The threshold of a verdict that counts as a failure. -/
def threshold (level : Option String) : Option Signal :=
  match level with
  | some "never" => none
  | some "yellow" => some .yellow
  | _ => some .red

/-- The mode of colours of a word. -/
def colourMode (mode : Option String) : ColourMode :=
  match mode with
  | some "always" => .always
  | some "never" => .never
  | _ => .automatic

/-- Reads the words of `evaluate`. -/
def readEvaluate (words : List String) : Except UsageFault Command := do
  let w ← readWords evaluateForms 0 words
  match w.options.lookup "document" with
  | none => .error .missingArgument
  | some document =>
    return .evaluate {
      config := (w.options.lookup "config").getD Configuration.defaultFile
      document := document
      concatenation := w.options.lookup "concatenation"
      exhaustive := (w.options.lookup "continue-search-on-fail").isSome
      timeout := (w.options.lookup "timeout").bind Time.Timeout.parse?
      policy := (w.options.lookup "on-error").bind FailurePolicy.ofName?
      json := w.options.lookup "json"
      failOn := threshold (w.options.lookup "fail-on")
      colours := colourMode (w.options.lookup "color") }

/-- Reads the words of `init`. -/
def readInit (words : List String) : Except UsageFault Command := do
  let w ← readWords [] 1 words
  return .init w.free.head?

/-- Reads the words of `validate`. -/
def readValidate (words : List String) : Except UsageFault Command := do
  let w ← readWords [.free "config" (some 'c')] 0 words
  return .validate ((w.options.lookup "config").getD Configuration.defaultFile)

/-- The names of the commands. -/
def names : List String := ["evaluate", "init", "validate"]

/-- The command of the words of a command line. -/
def read (words : List String) : Except UsageFault Command :=
  match words with
  | [] => .error .noCommand
  | "evaluate" :: rest => readEvaluate rest
  | "init" :: rest => readInit rest
  | "validate" :: rest => readValidate rest
  | "help" :: rest => match rest with
    | [] => .error .help
    | name :: _ => .error (if names.contains name || name == "help" then .help else .unknownCommand)
  | "--help" :: _ | "-h" :: _ => .error .help
  | "--version" :: _ | "-V" :: _ => .error .version
  | word :: _ => .error (if word.startsWith "-" then .unknownArgument else .unknownCommand)

end Command

end QualityGate.CommandLine
