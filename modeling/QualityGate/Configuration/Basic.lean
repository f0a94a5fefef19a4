import QualityGate.Check.Definition
import QualityGate.Gate
import QualityGate.Time.Timeout
import QualityGate.Toml.Parser

/-!
# Configurations

A configuration holds what a gate is made of: its checks, its concatenation, and the settings of its
evaluation. It is read from a TOML text or from a JSON value, where all fields have defaults and
none is unknown. `Configuration.validate` finds mistakes before any document is there.
-/

namespace QualityGate

/-- What went wrong on behalf of a user: the cause, and what was being done, from the inside out. -/
structure Problem where
  message : String
  contexts : List String
deriving DecidableEq

namespace Problem

/-- The problem with one more word on what was being done. -/
def within (p : Problem) (context : String) : Problem :=
  { p with contexts := p.contexts ++ [context] }

/-- The problem of a failure. -/
def ofFailure [Readers] (failure : Failure) : Problem := ⟨failure.message, []⟩

/-- The text of a problem, with a line for each context. -/
def render (p : Problem) : String :=
  p.message ++ String.join (p.contexts.map fun context => "\n> " ++ context)

end Problem

/-- The checks and settings of a gate. The timeout is in nanoseconds. -/
structure Configuration where
  exhaustive : Bool
  timeout : Nat
  policy : FailurePolicy
  concatenation : Option String
  checks : List NamedCheck
deriving DecidableEq

namespace Configuration

/-- The timeout of a configuration that names none: five seconds. -/
def defaultTimeout : Nat := 5_000_000_000

/-! ## As JSON -/

/-- The JSON form of a configuration. -/
def toJson (c : Configuration) : Json :=
  .object ([("continue_search_on_fail", .bool c.exhaustive),
      ("timeout", .string (Time.Timeout.render c.timeout)),
      ("on_error", .string c.policy.name)]
    ++ Json.optionalMember "concatenation" (c.concatenation.map Json.string)
    ++ [("checks", .array (c.checks.map NamedCheck.toJson))])

/-- The checks of JSON values. -/
def checksOfJson? : List Json → Option (List NamedCheck)
  | [] => some []
  | v :: rest => do
    let check ← NamedCheck.ofJson? v
    let checks ← checksOfJson? rest
    return check :: checks

/-- The configuration of a JSON value. -/
def ofJson? (v : Json) : Option Configuration := do
  let members ← v.membersAmong?
    ["continue_search_on_fail", "timeout", "on_error", "concatenation", "checks"]
  let exhaustive ← Json.fieldOr? "continue_search_on_fail" false Json.bool? members
  let timeout ← Json.fieldOr? "timeout" defaultTimeout
    (fun v => v.text?.bind Time.Timeout.parse?) members
  let policy ← Json.fieldOr? "on_error" .abort (fun v => v.text?.bind FailurePolicy.ofName?) members
  let concatenation ← Json.optional? "concatenation" Json.text? members
  let checks ← Json.fieldOr? "checks" [] (fun v => v.items?.bind checksOfJson?) members
  return ⟨exhaustive, timeout, policy, concatenation, checks⟩

/-- The configuration of a TOML text. -/
def parse? (text : String) : Option Configuration := (Toml.parse? text).bind ofJson?

/-! ## Validation -/

variable [Readers]

/-- Whether a text may be the name of a check. -/
def isName (name : String) : Bool :=
  match name.toList with
  | [] => false
  | c :: rest => Text.isNameStart c && rest.all fun d => Text.isNameRest d || d == '-'

/-- Checks a check beside those with the given names, and returns its problem if it has one. -/
def checkProblem? (names : List String) (c : NamedCheck) : Option Problem :=
  if !isName c.name then
    some ⟨"check name '" ++ c.name ++ "' must start with a letter or underscore and contain only "
      ++ "letters, digits, '_' or '-'", []⟩
  else if names.contains c.name then
    some ⟨"check name '" ++ c.name ++ "' is used more than once", []⟩
  else match c.definition.validate with
    | .ok _ => none
    | .error failure =>
      some ((Problem.ofFailure failure).within ("check '" ++ c.name ++ "' is invalid"))

/-- The first problem of checks beside those with the given names. -/
def checksProblem? (names : List String) : List NamedCheck → Option Problem
  | [] => none
  | c :: rest => match checkProblem? names c with
    | some problem => some problem
    | none => checksProblem? (c.name :: names) rest

/-- The problem of a concatenation of checks with the given names. -/
def concatenationProblem? (names : List String) (concatenation : String) : Option Problem :=
  ((Concatenation.names concatenation).find? fun name => !names.contains name).map fun name =>
    ⟨"concatenation '" ++ concatenation ++ "' references unknown check '" ++ name ++ "'", []⟩

/-- The first problem of a configuration, if it has one. -/
def problem? (c : Configuration) : Option Problem :=
  if c.timeout = 0 then some ⟨"timeout must be greater than zero", []⟩
  else match checksProblem? [] c.checks with
    | some problem => some problem
    | none => c.concatenation.bind (concatenationProblem? (c.checks.map (·.name)))

/-- Checks a configuration. -/
def validate (c : Configuration) : Except Problem Unit :=
  match c.problem? with
  | some problem => .error problem
  | none => .ok ()

/-- The gate of a configuration. -/
def gate (c : Configuration) : Gate :=
  ⟨.ofSettings c.exhaustive c.timeout, c.checks, c.concatenation, c.policy⟩

end Configuration

end QualityGate
