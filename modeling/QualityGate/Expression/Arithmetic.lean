import QualityGate.Expression.Fault
import QualityGate.Text.Search

/-!
# Operators on values

The meaning of the operators of expressions on values already computed. Integers are of 64 bits,
signed or unsigned, and leaving their range is a fault. The sides of an arithmetic operator have to
be of one kind.
-/

namespace QualityGate.Expression

/-- An operator with two sides that are both always evaluated. -/
inductive Operator where
  | add
  | subtract
  | multiply
  | divide
  | remainder
  | equal
  | notEqual
  | less
  | lessEqual
  | greater
  | greaterEqual
  | member
deriving DecidableEq

namespace Value

/-- The signed integer, if it fits 64 bits. -/
def ofInt? (i : Int) : Option Value :=
  if -0x8000_0000_0000_0000 ≤ i ∧ i < 0x8000_0000_0000_0000 then some (int i) else none

/-- The unsigned integer, if it fits 64 bits. -/
def ofNat? (i : Int) : Option Value :=
  if 0 ≤ i ∧ i < 0x1_0000_0000_0000_0000 then some (uint i.toNat) else none

/-- The result of an operation that may have left the range of its kind. -/
def orOverflow (op : String) (l r : Value) (result : Option Value) : Except Fault Value :=
  match result with
  | some v => .ok v
  | none => .error (.overflow op l r)

/-- The span as a value. The work is given up if it is beyond the limit. -/
def ofSpan (s : Time.Span) : Except Fault Value :=
  match s.checked? with
  | some s => .ok (span s)
  | none => .error .abandoned

/-- The instant as a value. The work is given up if it is beyond the calendar. -/
def ofInstant (t : Time.Instant) : Except Fault Value :=
  if t.inCalendar then .ok (instant t) else .error .abandoned

/-- The sum of two values. Texts and lists are joined. -/
def add (l r : Value) : Except Fault Value :=
  match l, r with
  | int i, int j => orOverflow "add" l r (ofInt? (i + j))
  | uint m, uint n => orOverflow "add" l r (ofNat? (m + n))
  | double f, double g => .ok (double (f + g))
  | text s, text t => .ok (text (s ++ t))
  | list xs, list ys => .ok (list (xs ++ ys))
  | span s, span t => ofSpan (s + t)
  | instant t, span s | span s, instant t => ofInstant (t.shift s)
  | _, _ => .error (.unsupportedBinary "add" l r)

/-- The difference of two values. -/
def subtract (l r : Value) : Except Fault Value :=
  match l, r with
  | int i, int j => orOverflow "sub" l r (ofInt? (i - j))
  | uint m, uint n => orOverflow "sub" l r (ofNat? ((m : Int) - n))
  | double f, double g => .ok (double (f - g))
  | span s, span t => ofSpan (s - t)
  | instant t, span s => ofInstant (t.shift (-s))
  | instant t, instant u => .ok (span (t.since u))
  | _, _ => .error (.unsupportedBinary "sub" l r)

/-- The product of two values. -/
def multiply (l r : Value) : Except Fault Value :=
  match l, r with
  | int i, int j => orOverflow "mul" l r (ofInt? (i * j))
  | uint m, uint n => orOverflow "mul" l r (ofNat? (m * n))
  | double f, double g => .ok (double (f * g))
  | _, _ => .error (.unsupportedBinary "mul" l r)

/-- The quotient of two values. Quotients of integers are cut toward zero. -/
def divide (l r : Value) : Except Fault Value :=
  match l, r with
  | int i, int j =>
    if j = 0 then .error (.divisionByZero l) else orOverflow "div" l r (ofInt? (i.tdiv j))
  | uint m, uint n => if n = 0 then .error (.divisionByZero l) else .ok (uint (m / n))
  | double f, double g => .ok (double (f / g))
  | _, _ => .error (.unsupportedBinary "div" l r)

/-- The remainder of two integers. It has the sign of the dividend. The one quotient beyond the
range leaves no remainder either. -/
def remainder (l r : Value) : Except Fault Value :=
  match l, r with
  | int i, int j =>
    if j = 0 then .error (.remainderByZero l)
    else orOverflow "rem" l r ((ofInt? (i.tdiv j)).map fun _ => int (i.tmod j))
  | uint m, uint n => if n = 0 then .error (.remainderByZero l) else .ok (uint (m % n))
  | _, _ => .error (.unsupportedBinary "rem" l r)

/-- Whether the order of two values is among those that `accept` takes. -/
def ordered (accept : Ordering → Bool) (l r : Value) : Except Fault Value :=
  match order? l r with
  | some o => .ok (bool (accept o))
  | none => .error (.notComparable l r)

/-- Whether a value is part of another: a part of a text, an element of a list or a key of a map. -/
def isIn (l r : Value) : Except Fault Value :=
  match l, r with
  | text s, text t => .ok (bool (Text.occursIn s.toList t.toList))
  | _, list items => .ok (bool (items.any (·.same l)))
  | _, map entries => .ok (bool (match l.toKey? with
    | some k => (entries.lookup k).isSome
    | none => false))
  | _, _ => .error (.notComparable l r)

/-- The value with its sign changed. The least integer has no counterpart. -/
def negate (v : Value) : Except Fault Value :=
  match v with
  | int i => match ofInt? (-i) with
    | some w => .ok w
    | none => .error .abandoned
  | double f => .ok (double (-f))
  | _ => .error (.unsupportedUnary "minus" v)

/-- The place of an index in a list, if it has one. -/
def listPlace? (length : Nat) (i : Int) : Option Nat :=
  if 0 ≤ i ∧ i < length then some i.toNat else none

/-- The character that fills the byte at an offset alone, if there is one. -/
def byteChar? : Nat → List Char → Option Char
  | _, [] => none
  | 0, c :: _ => if c.utf8Size = 1 then some c else none
  | n + 1, c :: rest =>
    if c.utf8Size ≤ n + 1 then byteChar? (n + 1 - c.utf8Size) rest else none

/-- The part of a value at an index. Parts that are not there are `null`. -/
def index (v i : Value) : Except Fault Value :=
  match v, i with
  | list items, int n =>
    .ok (((listPlace? items.length n).bind (items[·]?)).getD null)
  | text s, int n =>
    if n = 0x7FFF_FFFF_FFFF_FFFF then .error .abandoned
    else if n < 0 then .ok null
    else .ok (match byteChar? n.toNat s.toList with
      | some c => text (String.ofList [c])
      | none => null)
  | map entries, k => match k.toKey? with
    | some key => .ok ((lookupKey? entries key).getD null)
    | none => .error (.badMapIndex k)
  | list _, k => .error (.badListIndex k)
  | _, _ => .error (.badIndex v i)

end Value

/-- The meaning of an operator. -/
def Operator.apply (op : Operator) (l r : Value) : Except Fault Value :=
  match op with
  | add => l.add r
  | subtract => l.subtract r
  | multiply => l.multiply r
  | divide => l.divide r
  | remainder => l.remainder r
  | equal => .ok (.bool (l.same r))
  | notEqual => .ok (.bool (!l.same r))
  | less => l.ordered (· == .lt) r
  | lessEqual => l.ordered (· != .gt) r
  | greater => l.ordered (· == .gt) r
  | greaterEqual => l.ordered (· != .lt) r
  | member => l.isIn r

end QualityGate.Expression
