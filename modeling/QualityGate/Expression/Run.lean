import QualityGate.Expression.Fault

/-!
# Runs of expressions

An evaluation may call functions of its host, and the host wants to know which calls were made. A
`Run` is the outcome of an evaluation together with the record of those calls, in the order in which
they were made. The record stays when the evaluation fails. No evaluation reads the record, so a run
is a plain value and running a part twice records its calls twice.
-/

namespace QualityGate.Expression

/-- The outcome of an evaluation and the calls it made. -/
structure Run (κ : Type) (α : Type) where
  calls : List κ
  outcome : Except Fault α

namespace Run

variable {κ α β : Type}

/-- The run that makes no calls and gives a value. -/
def ofValue (a : α) : Run κ α := ⟨[], .ok a⟩

/-- The run that makes no calls and fails. -/
def fail (e : Fault) : Run κ α := ⟨[], .error e⟩

/-- The run that makes no calls and has the given outcome. -/
def ofExcept (r : Except Fault α) : Run κ α := ⟨[], r⟩

/-- The run that makes one call. -/
def record (call : κ) (r : Except Fault α) : Run κ α := ⟨[call], r⟩

/-- One run and then another that depends on its value. A failure ends the run. -/
def andThen (r : Run κ α) (f : α → Run κ β) : Run κ β :=
  match r.outcome with
  | .ok a => ⟨r.calls ++ (f a).calls, (f a).outcome⟩
  | .error e => ⟨r.calls, .error e⟩

instance : Monad (Run κ) where
  pure := ofValue
  bind := andThen

/-- The run with every fault replaced. -/
def withFault (e : Fault) (r : Run κ α) : Run κ α :=
  ⟨r.calls, match r.outcome with
    | .ok a => .ok a
    | .error _ => .error e⟩

/-- The values of runs, one after the other. -/
def all : List (Run κ α) → Run κ (List α)
  | [] => ofValue []
  | r :: rest => do
    let a ← r
    let more ← all rest
    return a :: more

end Run

/-- A function of expressions. It gets the value before its point, if it was called as a member, and
the runs of the arguments in parentheses, which it makes as it needs them. -/
abbrev Function (κ : Type) := Option Value → List (Run κ Value) → Run κ Value

end QualityGate.Expression
