import QualityGate.Expression.Literal
import QualityGate.Expression.Term

/-!
# Reading expressions

`Expression.parse?` reads a term that fills a text. From weakest to strongest, the forms are the
conditional, `||`, `&&`, the comparisons with `in`, sums, products, the signs `!` and `-`, and
members. All operators join from the left. A run of one sign counts once, and a minus sign before a
number belongs to the number.

The readers of the outer forms take the reader of whole terms as an argument; `readTerm` recurses on
a bound for the nesting, which the number of lexemes provides.
-/

namespace QualityGate.Expression

/-- A reader of one form, from a list of lexemes. -/
abbrev Reader (α : Type) := List Lexeme → Option (α × List Lexeme)

/-- The lexeme of a sign. -/
def sign (s : String) : Lexeme := ⟨.sign, s.toList⟩

/-- The lexeme of a word. -/
def word (s : String) : Lexeme := ⟨.name, s.toList⟩

/-- Reads one fixed lexeme. -/
def readExactly (l : Lexeme) : List Lexeme → Option (List Lexeme)
  | x :: rest => if x = l then some rest else none
  | [] => none

/-- Whether the characters make up one of the words that are no names. -/
def isReserved (cs : List Char) : Bool :=
  [['i', 'n'], ['t', 'r', 'u', 'e'], ['f', 'a', 'l', 's', 'e'], ['n', 'u', 'l', 'l']].contains cs

/-- Reads a name. -/
def readName : Reader String
  | l :: rest =>
    if l.kind = .name ∧ !isReserved l.chars then some (String.ofList l.chars, rest) else none
  | [] => none

/-- Reads the name of a field. One between backquotes keeps them. -/
def readField : Reader String
  | l :: rest =>
    if l.kind = .quotedName then some (String.ofList l.chars, rest) else readName (l :: rest)
  | [] => none

/-! ## Lists of forms -/

/-- Reads one form or several with commas between them. -/
def readCommaList {α : Type} (one : Reader α) : Nat → Reader (List α)
  | 0, _ => none
  | fuel + 1, ls => do
    let (x, rest) ← one ls
    match readExactly (sign ",") rest with
    | some more =>
      let (xs, rest) ← readCommaList one fuel more
      return (x :: xs, rest)
    | none => return ([x], rest)

/-- Reads forms with commas between and possibly after them, up to a closing sign. -/
def readOpenList {α : Type} (one : Reader α) (close : Lexeme) : Nat → Reader (List α)
  | 0, _ => none
  | fuel + 1, ls =>
    match readExactly close ls with
    | some rest => some ([], rest)
    | none => do
      let (x, rest) ← one ls
      match readExactly (sign ",") rest with
      | some more =>
        let (xs, rest) ← readOpenList one close fuel more
        return (x :: xs, rest)
      | none => return ([x], ← readExactly close rest)

/-- Reads the forms between brackets after the opening one. A comma may stand there alone. -/
def readBracketed {α : Type} (one : Reader α) (close : Lexeme) : Reader (List α) := fun ls =>
  match ls with
  | x :: y :: rest =>
    if x = sign "," ∧ y = close then some ([], rest) else readOpenList one close ls.length ls
  | _ => readOpenList one close ls.length ls

/-- Reads the arguments of a call after the opening parenthesis. -/
def readArguments (term : Reader Term) : Reader (List Term) := fun ls =>
  match readExactly (sign ")") ls with
  | some rest => some ([], rest)
  | none => do
    let (args, rest) ← readCommaList term ls.length ls
    return (args, ← readExactly (sign ")") rest)

/-- Reads two forms with a colon between them. -/
def readEntry {α β : Type} (left : Reader α) (right : Reader β) : Reader (α × β) := fun ls => do
  let (k, rest) ← left ls
  let rest ← readExactly (sign ":") rest
  let (v, rest) ← right rest
  return ((k, v), rest)

/-! ## Calls with a meaning of their own -/

/-- The term of a call without a point. -/
def makeCall (f : String) (args : List Term) : Option Term :=
  match f, args with
  | "has", [.select t field] | "has", [.has t field] => some (.has t field)
  | "has", [_] => none
  | _, _ => some (.call f args)

/-- The term of a call after a point. -/
def makeInvoke (t : Term) (f : String) (args : List Term) : Option Term :=
  let bound (mode : Walk) (x body : Term) : Option Term :=
    match x with
    | .name x => some (.walk mode t x body)
    | _ => none
  match f, args with
  | "all", [x, body] => bound .all x body
  | "exists", [x, body] => bound .exists x body
  | "exists_one", [x, body] => bound .existsOne x body
  | "existsOne", [x, body] => bound .existsOne x body
  | "filter", [x, body] => bound .filter x body
  | "map", [x, body] => bound .map x body
  | "map", [x, test, body] => match x with
    | .name x => some (.mapWhere t x test body)
    | _ => none
  | _, _ => some (.invoke t f args)

/-! ## Operands -/

/-- Reads a literal that is a single lexeme. -/
def readLiteral : Reader Term
  | l :: rest =>
    let value? : Option Value := match l.kind with
      | .integer => Literal.integer? false l.chars
      | .unsigned => Literal.unsigned? l.chars
      | .double => Literal.double? false l.chars
      | .text => (Literal.text? l.chars).map Value.text
      | .bytes => Literal.bytes? l.chars
      | .name =>
        if l = word "true" then some (.bool true)
        else if l = word "false" then some (.bool false)
        else if l = word "null" then some .null
        else none
      | _ => none
    value?.map fun v => (.literal v, rest)
  | [] => none

/-- Reads a number with a minus sign. -/
def readNegative : Reader Term
  | s :: l :: rest =>
    if s = sign "-" then
      let value? : Option Value := match l.kind with
        | .integer => Literal.integer? true l.chars
        | .double => Literal.double? true l.chars
        | _ => none
      value?.map fun v => (.literal v, rest)
    else none
  | _ => none

/-- Reads names with points between them. -/
def readDotted : Nat → Reader (List String)
  | 0, _ => none
  | fuel + 1, ls => do
    let (x, rest) ← readName ls
    match readExactly (sign ".") rest with
    | some more => match readDotted fuel more with
      | some (xs, rest) => return (x :: xs, rest)
      | none => return ([x], rest)
    | none => return ([x], rest)

/-- Reads the construction of a message: its kind, and fields in braces. -/
def readMessage (term : Reader Term) : Reader Term := fun ls => do
  let (kind, rest) ← readDotted ls.length ls
  let rest ← readExactly (sign "\x7b") rest
  let (_, rest) ← readBracketed (readEntry readField term) (sign "\x7d") rest
  return (.message kind, rest)

/-- Reads a name, or the call of a function. Only the name of a function keeps a leading point. -/
def readReference (term : Reader Term) (lead : String) : Reader Term := fun ls => do
  let (x, rest) ← readName ls
  match readExactly (sign "(") rest with
  | some more =>
    let (args, rest) ← readArguments term more
    return (← makeCall (lead ++ x) args, rest)
  | none => return (.name x, rest)

/-- Reads an operand without members. -/
def readPrimary (term : Reader Term) : Reader Term := fun ls =>
  match ls with
  | [] => none
  | l :: rest =>
    if l = sign "(" then do
      let (t, rest) ← term rest
      return (t, ← readExactly (sign ")") rest)
    else if l = sign "[" then
      (readBracketed term (sign "]") rest).map fun (ts, r) => (.list ts, r)
    else if l = sign "\x7b" then
      (readBracketed (readEntry term term) (sign "\x7d") rest).map fun (es, r) => (.map es, r)
    else if l = sign "." then readMessage term rest <|> readReference term "." rest
    else if l = sign "-" then readNegative ls
    else readLiteral ls <|> readMessage term ls <|> readReference term "" ls

/-- Reads the members after an operand: fields, calls and indices. -/
def readMembers (term : Reader Term) : Nat → Term → Reader Term
  | 0, t, ls => some (t, ls)
  | fuel + 1, t, ls =>
    match ls with
    | [] => some (t, [])
    | l :: rest =>
      if l = sign "." then do
        let called := (readName rest).bind fun (x, rest) =>
          (readExactly (sign "(") rest).map fun more => (x, more)
        match called with
        | some (x, more) =>
          let (args, rest) ← readArguments term more
          readMembers term fuel (← makeInvoke t x args) rest
        | none =>
          let (x, rest) ← readField rest
          readMembers term fuel (.select t x) rest
      else if l = sign "[" then do
        let (i, rest) ← term rest
        readMembers term fuel (.index t i) (← readExactly (sign "]") rest)
      else some (t, ls)

/-- Reads an operand with its members. -/
def readMember (term : Reader Term) : Reader Term := fun ls => do
  let (t, rest) ← readPrimary term ls
  readMembers term rest.length t rest

/-- The lexemes after a run of one sign. -/
def dropRun (l : Lexeme) (ls : List Lexeme) : List Lexeme := ls.dropWhile (· = l)

/-- Whether the first lexeme is a number that may carry a minus sign. -/
def startsNumber : List Lexeme → Bool
  | l :: _ => l.kind = .integer || l.kind = .double
  | [] => false

/-- Reads a member with the signs before it. -/
def readUnary (term : Reader Term) : Reader Term := fun ls =>
  match ls with
  | [] => none
  | l :: rest =>
    if l = sign "!" then (readMember term (dropRun l rest)).map fun (t, r) => (.not t, r)
    else if l = sign "-" then
      if startsNumber rest then readMember term ls
      else (readMember term (dropRun l rest)).map fun (t, r) => (.negate t, r)
    else readMember term ls

/-! ## Operators -/

/-- Reads the forms after a first one, each behind an operator that joins it from the left. -/
def readChain (one : Reader Term) (join? : Lexeme → Option (Term → Term → Term)) :
    Nat → Term → Reader Term
  | 0, t, ls => some (t, ls)
  | fuel + 1, t, ls =>
    match ls with
    | [] => some (t, [])
    | l :: rest =>
      match join? l with
      | some join => do
        let (u, rest) ← one rest
        readChain one join? fuel (join t u) rest
      | none => some (t, ls)

/-- Reads forms joined by operators of one strength. -/
def readJoined (one : Reader Term) (join? : Lexeme → Option (Term → Term → Term)) : Reader Term :=
  fun ls => do
    let (t, rest) ← one ls
    readChain one join? rest.length t rest

/-- The operators of products. -/
def product? (l : Lexeme) : Option (Term → Term → Term) :=
  if l = sign "*" then some (.binary .multiply)
  else if l = sign "/" then some (.binary .divide)
  else if l = sign "%" then some (.binary .remainder)
  else none

/-- The operators of sums. -/
def sum? (l : Lexeme) : Option (Term → Term → Term) :=
  if l = sign "+" then some (.binary .add)
  else if l = sign "-" then some (.binary .subtract)
  else none

/-- The comparisons. -/
def relation? (l : Lexeme) : Option (Term → Term → Term) :=
  if l = sign "==" then some (.binary .equal)
  else if l = sign "!=" then some (.binary .notEqual)
  else if l = sign "<" then some (.binary .less)
  else if l = sign "<=" then some (.binary .lessEqual)
  else if l = sign ">" then some (.binary .greater)
  else if l = sign ">=" then some (.binary .greaterEqual)
  else if l = word "in" then some (.binary .member)
  else none

/-- The sign of conjunctions. -/
def conjunction? (l : Lexeme) : Option (Term → Term → Term) :=
  if l = sign "&&" then some .and else none

/-- The sign of disjunctions. -/
def disjunction? (l : Lexeme) : Option (Term → Term → Term) :=
  if l = sign "||" then some .or else none

/-- Reads a disjunction, which may be a single operand. -/
def readDisjunction (term : Reader Term) : Reader Term :=
  readJoined (readJoined (readJoined (readJoined (readJoined (readUnary term) product?) sum?)
    relation?) conjunction?) disjunction?

/-- Reads a term whose parts nest less deep than the bound. -/
def readTerm : Nat → Reader Term
  | 0, _ => none
  | depth + 1, ls => do
    let (test, rest) ← readDisjunction (readTerm depth) ls
    match readExactly (sign "?") rest with
    | some more =>
      let (t, rest) ← readDisjunction (readTerm depth) more
      let rest ← readExactly (sign ":") rest
      let (u, rest) ← readTerm depth rest
      return (.conditional test t u, rest)
    | none => return (test, rest)

/-- The term that a text denotes. -/
def parse? (text : String) : Option Term := do
  let ls := (← Lexeme.split? text.toList).filter Lexeme.isToken
  let (t, rest) ← readTerm (ls.length + 1) ls
  if rest.isEmpty then return t else none

end QualityGate.Expression
