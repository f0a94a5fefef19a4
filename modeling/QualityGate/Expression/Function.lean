import QualityGate.Expression.Run
import QualityGate.Expression.Arithmetic
import QualityGate.Pattern.Footprint
import QualityGate.Text.Utf8

/-!
# Functions of expressions

The functions that every expression may call. Most have a receiver: the value before the point, or
else the first argument. Arguments that a function does not take are not even evaluated. A missing
argument is reported by its place among those in parentheses.
-/

namespace QualityGate.Expression

variable {κ : Type}

/-! ## Receivers and arguments -/

/-- The argument at a place. -/
def argument (args : List (Run κ Value)) (place : Nat) : Run κ Value :=
  match args[place]? with
  | some r => r
  | none => .fail (.missingArgument (place + 1) args.length)

/-- The text in a value. -/
def wantText (v : Value) : Run κ String :=
  match v with
  | .text s => pure s
  | _ => .fail (.unexpectedKind v "Arc<String>")

/-- The instant in a value. -/
def wantInstant (v : Value) : Run κ Time.Instant :=
  match v with
  | .instant t => pure t
  | _ => .fail (.unexpectedKind v "chrono::DateTime<chrono::FixedOffset>")

/-- The receiver of a call, and the place of the next argument. -/
def receiver (target : Option Value) (args : List (Run κ Value)) : Run κ (Value × Nat) :=
  match target with
  | some v => pure (v, 0)
  | none => do
    let v ← (argument args 0).withFault .missingReceiver
    return (v, 1)

/-- A function of its receiver alone. -/
def ofReceiver (f : Value → Run κ Value) : Function κ := fun target args => do
  let (v, _) ← receiver target args
  f v

/-- A function of a receiver that has to be a text, and of a text. -/
def ofTexts (f : String → String → Run κ Value) : Function κ := fun target args => do
  let (v, next) ← receiver target args
  let s ← wantText v
  let t ← argument args next
  f s (← wantText t)

/-- A function of a receiver and of one more value. -/
def ofPair (f : Value → Value → Run κ Value) : Function κ := fun target args => do
  let (v, next) ← receiver target args
  f v (← argument args next)

/-- A function of its first argument, which has to be a text. -/
def ofText (f : String → Run κ Value) : Function κ := fun _ args => do
  let v ← argument args 0
  f (← wantText v)

/-- A function of the instant that is its receiver, giving an integer. -/
def ofInstant (f : Time.Instant → Int) : Function κ := ofReceiver fun v => do
  let t ← wantInstant v
  return .int (f t)

/-! ## Membership and size -/

/-- The number of bytes, elements or entries of a value. -/
def sizeOf (v : Value) : Run κ Value :=
  match v with
  | .list items => pure (.int items.length)
  | .map entries => pure (.int entries.length)
  | .text s => pure (.int s.utf8ByteSize)
  | .bytes bs => pure (.int bs.length)
  | _ => .fail (.failedFunction "size" ("cannot determine the size of " ++ v.describe))

/-- Whether the first list is a part of the second. -/
def partOf (part : List UInt8) : List UInt8 → Bool
  | [] => part.isEmpty
  | b :: bs => part.isPrefixOf (b :: bs) || partOf part bs

/-- Whether a value contains another: an element of a list, a key of a map, a part of a text or of
bytes. -/
def containsValue (v x : Value) : Run κ Value :=
  match v with
  | .list items => pure (.bool (items.any (·.same x)))
  | .map entries => match x.toKey? with
    | some k => pure (.bool (entries.lookup k).isSome)
    | none => .fail (.badKey x)
  | .text s => match x with
    | .text t => pure (.bool (Text.occursIn t.toList s.toList))
    | _ => pure (.bool false)
  | .bytes bs => match x with
    | .bytes [] => .fail .abandoned
    | .bytes cs => pure (.bool (partOf cs bs))
    | _ => pure (.bool false)
  | _ => pure (.bool false)

/-- Whether a list has an element, or a text has a part. -/
def includesValue (v x : Value) : Bool :=
  match v, x with
  | .list items, _ => items.any (·.same x)
  | .text s, .text t => Text.occursIn t.toList s.toList
  | _, _ => false

/-! ## The greatest and the least -/

/-- The value that is left when each in turn takes the place of the one before, unless that one
stands in the given order to it. -/
def survivor (keeps : Ordering) (acc : Value) : List Value → Run κ Value
  | [] => pure acc
  | x :: rest =>
    match acc.order? x with
    | some o => if o == keeps then survivor keeps acc rest else survivor keeps x rest
    | none => .fail (.notComparable acc x)

/-- A function that picks one of its arguments, or of the elements of a single list. -/
def picking (keeps : Ordering) : Function κ := fun _ args => do
  let values ← Run.all args
  let pick (items : List Value) : Run κ Value :=
    match items with
    | [] => pure .null
    | v :: rest => survivor keeps v rest
  match values with
  | [.list items] => pick items
  | [v] => return v
  | _ => pick values

/-! ## Conversions -/

/-- Why a text is no integer. -/
def integerFault (name reason : String) : Fault :=
  .failedFunction name ("string parse error: " ++ reason)

/-- Reads the digits of an integer between two bounds. The first digit that is none, or that leads
beyond a bound, is the one reported. -/
def readBounded (name : String) (low high : Int) (negative : Bool) :
    Int → List Char → Except Fault Int
  | acc, [] => .ok acc
  | acc, c :: rest =>
    if Text.isDigit c then
      let d : Int := c.toNat - 48
      let next := if negative then acc * 10 - d else acc * 10 + d
      if next < low then
        .error (integerFault name "number too small to fit in target type")
      else if high < next then
        .error (integerFault name "number too large to fit in target type")
      else readBounded name low high negative next rest
    else .error (integerFault name "invalid digit found in string")

/-- The integer that a text denotes. Only a range that reaches below zero has a minus sign. -/
def readInteger (name : String) (low high : Int) (s : String) : Except Fault Int :=
  match s.toList with
  | [] => .error (integerFault name "cannot parse integer from empty string")
  | ['+'] | ['-'] => .error (integerFault name "invalid digit found in string")
  | '+' :: rest => readBounded name low high false 0 rest
  | '-' :: rest =>
    if low < 0 then readBounded name low high true 0 rest
    else .error (integerFault name "invalid digit found in string")
  | cs => readBounded name low high false 0 cs

/-- The signed integer of a value. -/
def toInt (v : Value) : Run κ Value :=
  match v with
  | .text s => do
    let i ← Run.ofExcept (readInteger "int" (-0x8000_0000_0000_0000) 0x7FFF_FFFF_FFFF_FFFF s)
    return .int i
  | .double f =>
    if f > 9223372036854775808.0 || f < -9223372036854775808.0 then
      .fail (.failedFunction "int" "integer overflow")
    else pure (.int (Time.cutToInt64 f))
  | .int i => pure (.int i)
  | .uint n =>
    if n < 0x8000_0000_0000_0000 then pure (.int n)
    else .fail (.failedFunction "int" "integer overflow")
  | _ => .fail (.failedFunction "int" ("cannot convert " ++ v.describe ++ " to int"))

/-- A double cut to a natural number, kept within 64 bits. Not-a-number gives zero. -/
def cutToNat64 (f : Float) : Nat :=
  if f.isNaN || f ≤ 0.0 then 0
  else if f ≥ 18446744073709551616.0 then 0xFFFF_FFFF_FFFF_FFFF
  else
    let b := Decimal.Binary.ofBits f.toBits
    if 0 ≤ b.exponent then b.mantissa <<< b.exponent.toNat
    else b.mantissa >>> (-b.exponent).toNat

/-- The unsigned integer of a value. -/
def toUint (v : Value) : Run κ Value :=
  match v with
  | .text s => do
    let i ← Run.ofExcept (readInteger "uint" 0 0xFFFF_FFFF_FFFF_FFFF s)
    return .uint i.toNat
  | .double f =>
    if f > 18446744073709551616.0 || f < 0.0 then
      .fail (.failedFunction "uint" "unsigned integer overflow")
    else pure (.uint (cutToNat64 f))
  | .int i =>
    if 0 ≤ i then pure (.uint i.toNat)
    else .fail (.failedFunction "uint" "unsigned integer overflow")
  | .uint n => pure (.uint n)
  | _ => .fail (.failedFunction "uint" ("cannot convert " ++ v.describe ++ " to uint"))

/-- The double that a text denotes: a decimal number, or one of the words for infinity and
not-a-number. -/
def readDouble? (s : String) : Option Float :=
  let (negative, body) := match s.toList with
    | '-' :: r => (true, r)
    | '+' :: r => (false, r)
    | r => (false, r)
  let signed (f : Float) : Float := if negative then -f else f
  let word := body.map Char.toLower
  if word = ['i', 'n', 'f'] || word = ['i', 'n', 'f', 'i', 'n', 'i', 't', 'y'] then
    some (signed (1.0 / 0.0))
  else if word = ['n', 'a', 'n'] then some (signed (0.0 / 0.0))
  else match Time.readDecimal body with
    | .found f [] =>
      if body.head?.any fun c => Text.isDigit c || c == '.' then some (signed f) else none
    | _ => none

/-- The double of a value. -/
def toDouble (v : Value) : Run κ Value :=
  match v with
  | .text s =>
    match readDouble? s with
    | some f => pure (.double f)
    | none => .fail (.failedFunction "double" ("string parse error: "
        ++ (if s.isEmpty then "cannot parse float from empty string"
          else "invalid float literal")))
  | .double f => pure (.double f)
  | .int i => pure (.double (Float.ofInt i))
  | .uint n => pure (.double (Float.ofNat n))
  | _ => .fail (.failedFunction "double" ("cannot convert " ++ v.describe ++ " to double"))

/-- The text of a value. -/
def toText (v : Value) : Run κ Value :=
  match v with
  | .text s => pure (.text s)
  | .instant t => pure (.text t.render)
  | .span s => match s.render? with
    | some t => pure (.text t)
    | none => .fail .abandoned
  | .int i => pure (.text (toString i))
  | .uint n => pure (.text (toString n))
  | .double f => pure (.text (Decimal.Layout.converted.render f))
  | .bytes bs => pure (.text (Text.ofBytes bs))
  | _ => .fail (.failedFunction "string" ("cannot convert " ++ v.describe ++ " to string"))

/-! ## The functions by name -/

/-- The function of a name that every expression may call. -/
def standard? (name : String) : Option (Function κ) :=
  match name with
  | "size" => some (ofReceiver sizeOf)
  | "contains" => some (ofPair containsValue)
  | "includes" => some (ofPair fun v x => pure (.bool (includesValue v x)))
  | "startsWith" => some (ofTexts fun s t => pure (.bool (t.toList.isPrefixOf s.toList)))
  | "endsWith" => some (ofTexts fun s t => pure (.bool (t.toList.isSuffixOf s.toList)))
  | "matches" => some (ofTexts fun s t => match Pattern.parse? t.toList with
      | some p => pure (.bool (p.matchesSome s.toList))
      | none => .fail (.failedFunction "matches" ("'" ++ t ++ "' not a valid regex")))
  | "max" => some (picking .gt)
  | "min" => some (picking .lt)
  | "int" => some (ofReceiver toInt)
  | "uint" => some (ofReceiver toUint)
  | "double" => some (ofReceiver toDouble)
  | "string" => some (ofReceiver toText)
  | "bytes" => some (ofText fun s => pure (.bytes (Text.bytesOf s)))
  | "duration" => some (ofText fun s => match Time.Span.parse? s with
      | some d => pure (.span d)
      | none => .fail (.failedFunction "duration" ("'" ++ s ++ "' is no duration")))
  | "timestamp" => some (ofText fun s => match Time.Instant.parse? s with
      | some t => pure (.instant t)
      | none => .fail (.failedFunction "timestamp" ("'" ++ s ++ "' is no timestamp")))
  | "getFullYear" => some (ofInstant fun t => t.date.year)
  | "getMonth" => some (ofInstant fun t => t.date.month - 1)
  | "getDayOfYear" => some (ofInstant fun t => t.dayOfYear)
  | "getDayOfMonth" => some (ofInstant fun t => t.date.day - 1)
  | "getDate" => some (ofInstant fun t => t.date.day)
  | "getDayOfWeek" => some (ofInstant fun t => t.dayOfWeek)
  | "getHours" => some (ofInstant fun t => t.secondOfDay / 3600)
  | "getMinutes" => some (ofInstant fun t => t.secondOfDay / 60 % 60)
  | "getSeconds" => some (ofInstant fun t => t.secondOfDay % 60)
  | "getMilliseconds" => some (ofInstant fun t => t.nanos / 1_000_000)
  | _ => none

end QualityGate.Expression
