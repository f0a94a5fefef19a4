/-!
# Statuses and signals

A check ends with a `Status`, a label that its author chooses freely. Three labels have a meaning of
their own, the signals `GREEN`, `YELLOW` and `RED`. Only signals can be compared: a verdict is the
worst of them, and formulas combine nothing else.
-/

namespace QualityGate

/-- One of the three signals, from worst to best. -/
inductive Signal where
  | red
  | yellow
  | green
deriving DecidableEq, Inhabited

/-- The outcome label of a check. -/
structure Status where
  label : String
deriving DecidableEq, Inhabited

namespace Signal

/-- The place of a signal in the order from worst to best. -/
def rank : Signal → Nat
  | red => 0
  | yellow => 1
  | green => 2

/-- A signal is below another when it is at least as bad. -/
instance : LE Signal := ⟨fun a b => a.rank ≤ b.rank⟩

instance (a b : Signal) : Decidable (a ≤ b) := inferInstanceAs (Decidable (a.rank ≤ b.rank))

/-- The worse of two signals. -/
instance : Min Signal := ⟨fun a b => if a ≤ b then a else b⟩

/-- The better of two signals. -/
instance : Max Signal := ⟨fun a b => if a ≤ b then b else a⟩

/-- The label of a signal. -/
def label : Signal → String
  | red => "RED"
  | yellow => "YELLOW"
  | green => "GREEN"

/-- The status that is labelled with a signal. -/
def status (s : Signal) : Status := ⟨s.label⟩

/-- The signal of a label, if it is exactly that of one. -/
def ofLabel? (label : String) : Option Signal :=
  if label = "RED" then some red
  else if label = "YELLOW" then some yellow
  else if label = "GREEN" then some green
  else none

/-- The signals ordered from worst to best. -/
def worstFirst (signals : List Signal) : List Signal := signals.mergeSort (· ≤ ·)

/-- The worst of some signals. -/
def worst? : List Signal → Option Signal
  | [] => none
  | s :: rest => match worst? rest with
    | some t => some (min s t)
    | none => some s

end Signal

namespace Status

/-- The status labelled `GREEN`. -/
def green : Status := Signal.green.status

/-- The status labelled `YELLOW`. -/
def yellow : Status := Signal.yellow.status

/-- The status labelled `RED`. -/
def red : Status := Signal.red.status

/-- The signal of a status, if its label is that of one. -/
def signal? (s : Status) : Option Signal := Signal.ofLabel? s.label

end Status

end QualityGate
