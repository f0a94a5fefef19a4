import QualityGate.Time.Instant
import QualityGate.Text.Quoted

/-!
# Values of expressions

What an expression computes with. Besides the kinds of JSON there are unsigned integers, bytes,
spans, instants, maps with several kinds of keys, and a function taken as a member of its receiver.

Equality never fails, and compares the three kinds of numbers by value. The order is partial.

No order is specified for the entries of a map. Here they stand in the order in which their keys
were set, which walks and descriptions follow.
-/

namespace QualityGate.Expression

/-- A key of a map. -/
inductive Key where
  | int (i : Int)
  | uint (n : Nat)
  | bool (b : Bool)
  | text (s : String)
deriving DecidableEq

/-- A value of an expression. -/
inductive Value where
  | null
  | bool (b : Bool)
  | int (i : Int)
  | uint (n : Nat)
  | double (f : Float)
  | text (s : String)
  | bytes (bs : List UInt8)
  | list (items : List Value)
  | map (entries : List (Key × Value))
  | span (s : Time.Span)
  | instant (t : Time.Instant)
  | method (name : String) (receiver : Value)

namespace Key

/-- The key as a value. -/
def toValue : Key → Value
  | int i => .int i
  | uint n => .uint n
  | bool b => .bool b
  | text s => .text s

/-- The text of an integer. -/
def integerText (i : Int) : String := toString i

/-- The text by which a key becomes a member name. -/
def render : Key → String
  | int i => integerText i
  | uint n => integerText n
  | bool b => if b then "true" else "false"
  | text s => s

/-- The key of the same number in the other kind of integers. -/
def counterpart? : Key → Option Key
  | int i => if 0 ≤ i then some (uint i.toNat) else none
  | uint n => if n < 0x8000_0000_0000_0000 then some (int n) else none
  | _ => none

end Key

namespace Value

/-- The key that a value can serve as. -/
def toKey? : Value → Option Key
  | bool b => some (.bool b)
  | int i => some (.int i)
  | uint n => some (.uint n)
  | text s => some (.text s)
  | _ => none

/-- Whether a value counts as true. Empty texts, bytes, lists and maps, zeros, `null` and methods do
not. -/
def isTrue : Value → Bool
  | null | method _ _ => false
  | bool b => b
  | int i => i != 0
  | uint n => n != 0
  | double f => f != 0.0
  | text s => !s.isEmpty
  | bytes bs => !bs.isEmpty
  | list items => !items.isEmpty
  | map entries => !entries.isEmpty
  | span s => -0x8000_0000_0000_0000 ≤ s && s < 0x8000_0000_0000_0000 && s != 0
  | instant t => 0 < t.totalNanos && t.totalNanos < 0x8000_0000_0000_0000

/-- The entry of a map for a key. An integer key also finds the same number of the other kind. -/
def lookupKey? (entries : List (Key × Value)) (k : Key) : Option Value :=
  (entries.lookup k).or (k.counterpart?.bind fun l => entries.lookup l)

/-- The entries of a map with one of them set. -/
def setEntry (k : Key) (v : Value) : List (Key × Value) → List (Key × Value)
  | [] => [(k, v)]
  | (l, w) :: rest => if l = k then (l, v) :: rest else (l, w) :: setEntry k v rest

/-! ## Equality and order -/

mutual

/-- Whether two values are equal. Numbers of different kinds are compared by value. -/
def same : Value → Value → Bool
  | null, null => true
  | bool a, bool b => a == b
  | int i, int j => i == j
  | uint m, uint n => m == n
  | double f, double g => f == g
  | int i, uint n | uint n, int i => i == (n : Int)
  | int i, double f | double f, int i => Float.ofInt i == f
  | uint n, double f | double f, uint n => Float.ofNat n == f
  | text s, text t => s == t
  | bytes bs, bytes cs => bs == cs
  | list xs, list ys => sameItems xs ys
  | map xs, map ys => xs.length == ys.length && sameEntries xs ys
  | span s, span t => s == t
  | instant t, instant u => t.order u == .eq
  | method n v, method m w => n == m && same v w
  | _, _ => false

/-- Whether two lists are equal element by element. -/
def sameItems : List Value → List Value → Bool
  | [], [] => true
  | x :: xs, y :: ys => same x y && sameItems xs ys
  | _, _ => false

/-- Whether each entry of one map has an equal one in the other. -/
def sameEntries : List (Key × Value) → List (Key × Value) → Bool
  | [], _ => true
  | (k, x) :: xs, ys => (match ys.lookup k with
    | some y => same x y
    | none => false) && sameEntries xs ys

end

/-- The order of two doubles, which not-a-number has none of. -/
def orderDoubles (f g : Float) : Option Ordering :=
  if f < g then some .lt else if f == g then some .eq else if f > g then some .gt else none

/-- The order of two values, if they have one. -/
def order? : Value → Value → Option Ordering
  | null, null => some .eq
  | bool a, bool b => some (compare a.toNat b.toNat)
  | int i, int j => some (compare i j)
  | uint m, uint n => some (compare m n)
  | double f, double g => orderDoubles f g
  | int i, uint n => some (compare i (n : Int))
  | uint n, int i => some (compare (n : Int) i)
  | int i, double f => orderDoubles (Float.ofInt i) f
  | double f, int i => orderDoubles f (Float.ofInt i)
  | uint n, double f => orderDoubles (Float.ofNat n) f
  | double f, uint n => orderDoubles f (Float.ofNat n)
  | text s, text t => some (compare s t)
  | span s, span t => some (compare s t)
  | instant t, instant u => some (t.order u)
  | _, _ => none

/-! ## Description -/

/-- Texts with a comma between them. -/
def joinTexts (texts : List String) : String := String.intercalate ", " texts

/-- The description of a key in a diagnostic. -/
def describeKey : Key → String
  | .int i => "Int(" ++ Key.integerText i ++ ")"
  | .uint n => "Uint(" ++ Key.integerText n ++ ")"
  | .bool b => "Bool(" ++ (if b then "true" else "false") ++ ")"
  | .text s => "String(" ++ Text.quoted s ++ ")"

mutual

/-- The description of a value in a diagnostic. -/
def describe : Value → String
  | null => "Null"
  | bool b => "Bool(" ++ (if b then "true" else "false") ++ ")"
  | int i => "Int(" ++ Key.integerText i ++ ")"
  | uint n => "UInt(" ++ Key.integerText n ++ ")"
  | double f => "Float(" ++ Decimal.Layout.diagnostic.render f ++ ")"
  | text s => "String(" ++ Text.quoted s ++ ")"
  | bytes bs => "Bytes([" ++ joinTexts (bs.map fun b => toString b.toNat) ++ "])"
  | list items => "List([" ++ joinTexts (describeItems items) ++ "])"
  | map entries => "Map(Map \x7b map: \x7b" ++ joinTexts (describeEntries entries) ++ "\x7d \x7d)"
  | span s => "Duration(TimeDelta \x7b secs: " ++ toString (s / 1_000_000_000) ++ ", nanos: "
      ++ toString (s % 1_000_000_000) ++ " \x7d)"
  | instant t => "Timestamp(" ++ t.render ++ ")"
  | method name receiver =>
    "Function(" ++ Text.quoted name ++ ", Some(" ++ describe receiver ++ "))"

/-- The descriptions of the elements of a list. -/
def describeItems : List Value → List String
  | [] => []
  | x :: xs => describe x :: describeItems xs

/-- The descriptions of the entries of a map. -/
def describeEntries : List (Key × Value) → List String
  | [] => []
  | (k, x) :: rest => (describeKey k ++ ": " ++ describe x) :: describeEntries rest

end

end Value

end QualityGate.Expression
