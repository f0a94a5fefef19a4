import QualityGate.Text.Blank
import QualityGate.Toml.Table

/-!
# Reading TOML texts

`Toml.parse?` reads a text of headers and assignments and returns its table as JSON. Values are
texts in all four forms, booleans, whole numbers, arrays and inline tables. Fractions and dates are
not among the values that are read.
-/

namespace QualityGate.Toml

open Text (isDigit)

/-- A reader of one form, from a list of characters. -/
abbrev Reader (α : Type) := List Char → Option (α × List Char)

/-! ## Blanks and comments -/

/-- The text without blanks at its start. -/
def skipBlanks (cs : List Char) : List Char := cs.dropWhile fun c => c == ' ' || c == '\t'

/-- Whether the character may stand in comments and in texts. Control characters may not, but for
the tabulator. -/
def isPlain (c : Char) : Bool := c == '\t' || (0x20 ≤ c.toNat && c.toNat != 0x7F)

/-- The rest of a text after a line break. -/
def skipBreak? : List Char → Option (List Char)
  | '\n' :: rest => some rest
  | '\r' :: '\n' :: rest => some rest
  | _ => none

/-- The rest of a text after a comment, if there is one. -/
def skipComment (cs : List Char) : List Char :=
  match cs with
  | '#' :: rest => rest.dropWhile isPlain
  | _ => cs

/-- The rest of a text after the end of a line, with blanks and a comment before it. -/
def skipLineEnd? (cs : List Char) : Option (List Char) :=
  match skipComment (skipBlanks cs) with
  | [] => some []
  | rest => skipBreak? rest

/-- The text without blanks, comments and line breaks at its start. -/
def skipLines : Nat → List Char → List Char
  | 0, cs => cs
  | fuel + 1, cs =>
    match skipBreak? (skipComment (skipBlanks cs)) with
    | some rest => skipLines fuel rest
    | none => skipComment (skipBlanks cs)

/-! ## Texts -/

/-- Reads what follows the backslash of an escape. -/
def readEscape : Reader Char
  | 'b' :: rest => some ('\x08', rest)
  | 't' :: rest => some ('\t', rest)
  | 'n' :: rest => some ('\n', rest)
  | 'f' :: rest => some ('\x0c', rest)
  | 'r' :: rest => some ('\r', rest)
  | '"' :: rest => some ('"', rest)
  | '\\' :: rest => some ('\\', rest)
  | 'u' :: rest => do
    let (n, rest) ← Text.takeHex 4 rest
    return (← Text.charOf? n, rest)
  | 'U' :: rest => do
    let (n, rest) ← Text.takeHex 8 rest
    return (← Text.charOf? n, rest)
  | _ => none

/-- Reads the rest of a text on one line after its quote. Only in double quotes there are escapes.
The fuel is at least the length of the text. -/
def readLine (quote : Char) : Nat → Reader (List Char)
  | 0, _ => none
  | fuel + 1, cs =>
    match cs with
    | [] => none
    | c :: rest =>
      if c = quote then some ([], rest)
      else if c = '\\' ∧ quote = '"' then do
        let (d, rest) ← readEscape rest
        let (more, rest) ← readLine quote fuel rest
        return (d :: more, rest)
      else if isPlain c then do
        let (more, rest) ← readLine quote fuel rest
        return (c :: more, rest)
      else none

/-- The text without blanks and line breaks at its start. -/
def skipGaps : Nat → List Char → List Char
  | 0, cs => cs
  | fuel + 1, cs =>
    match skipBreak? (skipBlanks cs) with
    | some rest => skipGaps fuel rest
    | none => skipBlanks cs

/-- The rest of a text after a line break that a backslash takes away, with all blanks and line
breaks behind it. -/
def skipFolded? (cs : List Char) : Option (List Char) :=
  (skipBreak? (skipBlanks cs)).map fun rest => skipGaps rest.length rest

/-- Reads the rest of a text on several lines after its three quotes. Up to two quotes may stand
before the closing ones. The fuel is at least the length of the text. -/
def readBlock (quote : Char) : Nat → Reader (List Char)
  | 0, _ => none
  | fuel + 1, cs =>
    match cs with
    | [] => none
    | c :: rest =>
      if [quote, quote, quote].isPrefixOf cs then
        let run := (cs.takeWhile (· == quote)).length
        if run ≤ 5 then some (List.replicate (run - 3) quote, cs.drop run) else none
      else if c = '\\' ∧ quote = '"' then
        match skipFolded? rest with
        | some rest => readBlock quote fuel rest
        | none => do
          let (d, rest) ← readEscape rest
          let (more, rest) ← readBlock quote fuel rest
          return (d :: more, rest)
      else match skipBreak? cs with
        | some rest => do
          let (more, rest) ← readBlock quote fuel rest
          return ('\n' :: more, rest)
        | none =>
          if isPlain c then do
            let (more, rest) ← readBlock quote fuel rest
            return (c :: more, rest)
          else none

/-- Reads a text in quotes on one line. -/
def readQuoted : Reader String
  | c :: rest =>
    if c = '"' ∨ c = '\'' then
      (readLine c (rest.length + 1) rest).map fun (s, r) => (String.ofList s, r)
    else none
  | [] => none

/-- Reads a text. A line break right after three opening quotes does not count. -/
def readText (cs : List Char) : Option (String × List Char) :=
  match cs with
  | a :: b :: c :: rest =>
    if a = b ∧ b = c ∧ (a = '"' ∨ a = '\'') then
      let body := (skipBreak? rest).getD rest
      (readBlock a (body.length + 1) body).map fun (s, r) => (String.ofList s, r)
    else readQuoted cs
  | _ => readQuoted cs

/-! ## Numbers and words -/

/-- Whether the character may stand in a plain key. -/
def isKeyChar (c : Char) : Bool := Text.isLetter c || isDigit c || c == '_' || c == '-'

/-- Whether underscores stand between digits only. -/
def wellGrouped : List Char → Bool
  | [] => false
  | [c] => isDigit c
  | '_' :: '_' :: _ => false
  | c :: rest => (isDigit c || c == '_') && wellGrouped rest

/-- The whole number of a list of digits. -/
def wholeNumber? (cs : List Char) : Option Nat :=
  let digits := cs.filter (· != '_')
  let padded := digits.head? == some '0' && digits.length != 1
  if cs.head? == some '_' || !wellGrouped cs || padded then none
  else Text.digitsValue? 10 Text.hexValue? digits

/-- The value of a word that is no text. -/
def wordValue? (cs : List Char) : Option Json :=
  match cs with
  | ['t', 'r', 'u', 'e'] => some (.bool true)
  | ['f', 'a', 'l', 's', 'e'] => some (.bool false)
  | '+' :: digits => (wholeNumber? digits).map fun n => .number (.integer n)
  | '-' :: digits => (wholeNumber? digits).map fun n => .number (.integer (-n))
  | digits => (wholeNumber? digits).map fun n => .number (.integer n)

/-- Reads a boolean or a whole number. -/
def readWord : Reader Json := fun cs =>
  let isPart (c : Char) : Bool := isKeyChar c || c == '+' || c == '.' || c == ':'
  (wordValue? (cs.takeWhile isPart)).map fun v => (v, cs.dropWhile isPart)

/-! ## Keys -/

/-- Reads a single key. -/
def readKey (cs : List Char) : Option (String × List Char) :=
  match cs with
  | [] => none
  | c :: _ =>
    if c = '"' ∨ c = '\'' then readQuoted cs
    else if isKeyChar c then some (String.ofList (cs.takeWhile isKeyChar), cs.dropWhile isKeyChar)
    else none

/-- Reads keys with points between them, and blanks around them. -/
def readPath : Nat → Reader (List String)
  | 0, _ => none
  | fuel + 1, cs => do
    let (key, rest) ← readKey (skipBlanks cs)
    match skipBlanks rest with
    | '.' :: more =>
      let (keys, rest) ← readPath fuel more
      return (key :: keys, rest)
    | rest => return ([key], rest)

/-- Reads an assignment, given the reader of its value. -/
def readAssignment (value : Reader Json) : Reader (List String × Json) := fun cs => do
  let (path, rest) ← readPath cs.length cs
  match rest with
  | '=' :: rest =>
    let (v, rest) ← value (skipBlanks rest)
    return ((path, v), rest)
  | _ => none

/-! ## Values -/

/-- Reads the items of an array after its opening bracket. -/
def readItems (value : Reader Json) : Nat → Reader (List Json)
  | 0, _ => none
  | fuel + 1, cs =>
    match skipLines cs.length cs with
    | ']' :: rest => some ([], rest)
    | cs => do
      let (v, rest) ← value cs
      match skipLines rest.length rest with
      | ',' :: rest =>
        let (vs, rest) ← readItems value fuel rest
        return (v :: vs, rest)
      | ']' :: rest => return ([v], rest)
      | _ => none

/-- Reads the assignments of an inline table after a first one or its opening brace. -/
def readInline (value : Reader Json) : Nat → Reader (List (List String × Json))
  | 0, _ => none
  | fuel + 1, cs => do
    let (entry, rest) ← readAssignment value (skipBlanks cs)
    match skipBlanks rest with
    | ',' :: rest =>
      let (entries, rest) ← readInline value fuel rest
      return (entry :: entries, rest)
    | '}' :: rest => return ([entry], rest)
    | _ => none

/-- The table that assignments build. -/
def tableOf : List (List String × Json) → Table → Option Table
  | [], t => some t
  | (path, v) :: rest, t => do tableOf rest (← t.assign path v)

/-- Reads an inline table after its opening brace. -/
def readInlineTable (value : Reader Json) : Reader Json := fun cs =>
  match skipBlanks cs with
  | '}' :: rest => some (.object [], rest)
  | cs => do
    let (entries, rest) ← readInline value cs.length cs
    return ((← tableOf entries []).toJson, rest)

/-- Reads a value whose arrays and tables nest less deep than the bound. -/
def readValue : Nat → Reader Json
  | 0, _ => none
  | depth + 1, cs =>
    match cs with
    | [] => none
    | c :: rest =>
      if c = '[' then (readItems (readValue depth) cs.length rest).map fun (vs, r) => (.array vs, r)
      else if c = '\x7b' then readInlineTable (readValue depth) rest
      else if c = '"' ∨ c = '\'' then (readText cs).map fun (s, r) => (.string s, r)
      else readWord cs

/-! ## Statements -/

/-- Reads a statement. Returns the path of the open table, and the whole table after it. -/
def readStatement (opened : List String) (t : Table) : Reader (List String × Table) := fun cs =>
  match cs with
  | '[' :: '[' :: rest => do
    let (path, rest) ← readPath rest.length rest
    match rest with
    | ']' :: ']' :: rest => return ((path, ← t.openSeries path), rest)
    | _ => none
  | '[' :: rest => do
    let (path, rest) ← readPath rest.length rest
    match rest with
    | ']' :: rest => return ((path, ← t.openTable path), rest)
    | _ => none
  | _ => do
    let ((path, v), rest) ← readAssignment (readValue (cs.length + 1)) cs
    return ((opened, ← t.assignIn opened path v), rest)

/-- Reads statements up to the end of a text. The fuel is greater than the length of the text. -/
def readStatements : Nat → List String → Table → List Char → Option Table
  | 0, _, _, _ => none
  | fuel + 1, opened, t, cs =>
    match skipLines cs.length cs with
    | [] => some t
    | cs => do
      let ((opened, t), rest) ← readStatement opened t (skipBlanks cs)
      readStatements fuel opened t (← skipLineEnd? rest)

/-- The table of a TOML text, as a JSON object. A mark of the byte order may stand before it. -/
def parse? (text : String) : Option Json :=
  let cs := match text.toList with
    | '\ufeff' :: rest => rest
    | cs => cs
  (readStatements (cs.length + 1) [] [] cs).map Table.toJson

end QualityGate.Toml
