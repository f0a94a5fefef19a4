import QualityGate.Expression.Function
import QualityGate.Expression.Parser

/-!
# Evaluating terms

`Term.eval` computes the value of a term in a scope. Everything is evaluated from left to right, and
the first fault ends the evaluation. The connectives evaluate their right side only if the left one
does not settle the result.

Calls have an order of their own. A function with one or two arguments in parentheses has the first
of them evaluated before its name is looked up, and after that the value before its point is
evaluated. The function then runs its arguments as it needs them, the first one once more.
-/

namespace QualityGate.Expression

variable {κ : Type}

/-- What names stand for: the variables, of which the first of a name counts, and the functions. -/
structure Scope (κ : Type) where
  bindings : List (String × Value)
  function? : String → Option (Function κ)

namespace Scope

/-- The scope with one more variable, which hides an earlier one of its name. -/
def bind (s : Scope κ) (name : String) (v : Value) : Scope κ :=
  { s with bindings := (name, v) :: s.bindings }

/-- The value of a variable. -/
def read (s : Scope κ) (name : String) : Run κ Value :=
  match s.bindings.lookup name with
  | some v => pure v
  | none => .fail (.undeclared name)

/-- The function of a name. -/
def find (s : Scope κ) (name : String) : Run κ (Function κ) :=
  match s.function? name with
  | some f => pure f
  | none => .fail (.undeclared name)

/-- A field of a value: the entry of a map, or else a function taken as a member. -/
def field (s : Scope κ) (v : Value) (name : String) : Run κ Value :=
  let found := match v with
    | .map entries => entries.lookup (.text name)
    | _ => none
  match found with
  | some w => pure w
  | none =>
    if (s.function? name).isSome then pure (.method name v) else .fail (.noSuchKey name)

end Scope

/-- Whether a value is a map with a key of the given text. -/
def hasField (v : Value) (name : String) : Bool :=
  match v with
  | .map entries => entries.any fun e => e.1.render == name
  | _ => false

/-- The elements that a walk goes through: those of a list, or the keys of a map. The order of keys
is not specified, and any other would do as well: here they come in the order in which they were
set. -/
def elementsOf (v : Value) : Run κ (List Value) :=
  match v with
  | .list items => pure items
  | .map entries => pure (entries.map (·.1.toValue))
  | _ => .fail .abandoned

/-! ## Walks -/

/-- Whether the test is true of every element. It is not asked again once it has failed. -/
def walkAll (test : Value → Run κ Value) : List Value → Run κ Value
  | [] => pure (.bool true)
  | x :: rest => do
    let v ← test x
    if v.isTrue then walkAll test rest else return .bool false

/-- The first true result of the test, or else the last one. -/
def walkExists (test : Value → Run κ Value) (last : Value) : List Value → Run κ Value
  | [] => pure last
  | x :: rest => do
    let v ← test x
    if v.isTrue then return v else walkExists test v rest

/-- Whether the test is true of exactly one element. -/
def walkExistsOne (test : Value → Run κ Value) (found : Nat) : List Value → Run κ Value
  | [] => pure (.bool (found == 1))
  | x :: rest => do
    let v ← test x
    walkExistsOne test (if v.isTrue then found + 1 else found) rest

/-- The results of the body for the elements of which the test is true. -/
def walkMap (test body : Value → Run κ Value) : List Value → Run κ (List Value)
  | [] => pure []
  | x :: rest => do
    let passes ← test x
    if passes.isTrue then
      let v ← body x
      let more ← walkMap test body rest
      return v :: more
    else walkMap test body rest

/-- A walk over elements. -/
def Walk.run (mode : Walk) (body : Value → Run κ Value) (items : List Value) : Run κ Value :=
  match mode with
  | .all => walkAll body items
  | .exists => walkExists body (.bool false) items
  | .existsOne => walkExistsOne body 0 items
  | .filter => do return .list (← walkMap body pure items)
  | .map => do return .list (← walkMap (fun _ => pure (.bool true)) body items)

/-! ## Terms -/

/-- Makes the run of the first of one or two arguments, and drops its value. -/
def peek (args : List (Run κ Value)) : Run κ Unit :=
  match args with
  | [r] | [r, _] => do
    let _ ← r
    return ()
  | _ => pure ()

mutual

/-- The value of a term. -/
def Term.eval : Term → Scope κ → Run κ Value
  | .literal v, _ => pure v
  | .name x, s => s.read x
  | .select t name, s => do s.field (← t.eval s) name
  | .has t name, s => do return .bool (hasField (← t.eval s) name)
  | .index t i, s => do
    let v ← t.eval s
    let k ← i.eval s
    Run.ofExcept (v.index k)
  | .call f args, s => do
    let runs := evalEach args s
    peek runs
    let g ← s.find f
    g none runs
  | .invoke t f args, s => do
    let runs := evalEach args s
    peek runs
    let g ← s.find f
    let v ← t.eval s
    g (some v) runs
  | .not t, s => do return .bool (!(← t.eval s).isTrue)
  | .negate t, s => do Run.ofExcept (← t.eval s).negate
  | .binary op left right, s => do
    let l ← left.eval s
    let r ← right.eval s
    Run.ofExcept (op.apply l r)
  | .and left right, s => do
    let l ← left.eval s
    if l.isTrue then
      let r ← right.eval s
      return .bool r.isTrue
    else return .bool false
  | .or left right, s => do
    let l ← left.eval s
    if l.isTrue then return l else right.eval s
  | .conditional test t u, s => do
    let v ← test.eval s
    if v.isTrue then t.eval s else u.eval s
  | .list items, s => do return .list (← Run.all (evalEach items s))
  | .map entries, s => do return .map (← evalEntries entries s [])
  | .message _, _ => .fail .abandoned
  | .walk mode range x body, s => do
    let items ← elementsOf (← range.eval s)
    mode.run (fun v => body.eval (s.bind x v)) items
  | .mapWhere range x test body, s => do
    let items ← elementsOf (← range.eval s)
    return .list (← walkMap (fun v => test.eval (s.bind x v)) (fun v => body.eval (s.bind x v))
      items)

/-- The runs of terms, each by itself. -/
def evalEach : List Term → Scope κ → List (Run κ Value)
  | [], _ => []
  | t :: rest, s => t.eval s :: evalEach rest s

/-- The entries of a map, added to those already there. Of two entries with one key the later
stands. -/
def evalEntries : List (Term × Term) → Scope κ → List (Key × Value) → Run κ (List (Key × Value))
  | [], _, entries => pure entries
  | (k, t) :: rest, s, entries => do
    let key ← k.eval s
    match key.toKey? with
    | none => .fail (.badKey key)
    | some key =>
      let v ← t.eval s
      evalEntries rest s (Value.setEntry key v entries)

end

end QualityGate.Expression
