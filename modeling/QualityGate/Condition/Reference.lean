import QualityGate.Condition.Bracket
import QualityGate.Failure
import QualityGate.Text.Blank

/-!
# References

A condition speaks of the data it judges through a reference token: `$` followed by any number of
path segments, namely `.name`, `..name`, `.*`, `..*` and segments in brackets. Behind a token stands
the end, a blank, an operator, a comma or a closing sign. Where a method is called on it, the name
of the method does not belong to the token.

All tokens of a condition have to be the same. `Reference.scan` finds them with their places, and
`Reference.substitute` puts a name in their stead.
-/

namespace QualityGate.Condition

/-- A part of a text, from one offset to another. -/
structure Span where
  start : Nat
  stop : Nat
deriving DecidableEq

/-- The token of a condition: its path, whether it stands before a call of `includes`, and its
places. -/
structure Reference where
  path : String
  membership : Bool
  spans : List Span
deriving DecidableEq

/-- An occurrence of a token. -/
structure Occurrence where
  path : List Char
  membership : Bool
  span : Span
deriving DecidableEq

/-! ## Segments -/

/-- Cuts a name or a star off the start of a text. -/
def splitMemberName? : List Char → Option (List Char × List Char)
  | c :: rest =>
    if c = '*' then some (['*'], rest)
    else if Text.isNameStart c then
      some (c :: rest.takeWhile Text.isNameRest, rest.dropWhile Text.isNameRest)
    else none
  | [] => none

/-- Cuts a segment with one point or two off the start of a text. -/
def splitMember? : List Char → Option (List Char × List Char)
  | '.' :: '.' :: rest => (splitMemberName? rest).map fun (a, b) => ('.' :: '.' :: a, b)
  | '.' :: rest => (splitMemberName? rest).map fun (a, b) => ('.' :: a, b)
  | _ => none

/-- Cuts a segment off the start of a text. -/
def splitSegment? (cs : List Char) : Option (List Char × List Char) :=
  splitMember? cs <|> splitBracket? cs

/-- Cuts all segments off the start of a text, at most as many as the bound. -/
def splitSegments : Nat → List Char → List Char × List Char
  | 0, cs => ([], cs)
  | bound + 1, cs =>
    match splitSegment? cs with
    | some (a, rest) =>
      let (b, rest) := splitSegments bound rest
      (a ++ b, rest)
    | none => ([], cs)

/-- Cuts all segments off the start of a text. -/
def splitToken (cs : List Char) : List Char × List Char := splitSegments cs.length cs

/-! ## Tokens -/

/-- Whether a token may end before the character. -/
def isTerminator (c : Char) : Bool :=
  Text.isBlank c || ['=', '!', '<', '>', '&', '|', '+', '-', '*', '/', '%', ',', ')', ']', '?',
    ':'].contains c

/-- Cuts a text at the last point, which is dropped. -/
def splitLastPoint? : List Char → Option (List Char × List Char)
  | [] => none
  | c :: rest =>
    match splitLastPoint? rest with
    | some (a, b) => some (c :: a, b)
    | none => if c = '.' then some ([], rest) else none

/-- The path of a candidate before a text, and whether it stands before a call of `includes`. -/
def classify? (candidate rest : List Char) : Option (List Char × Bool) :=
  match rest with
  | [] => some (candidate, false)
  | c :: _ =>
    if isTerminator c then some (candidate, false)
    else if c = '(' then
      match splitLastPoint? candidate with
      | none => none
      | some (path, method) =>
        if path.isEmpty || path.getLast? == some '.' || method.isEmpty || method == ['*'] then none
        else some (path, method == "includes".toList)
    else none

/-- The occurrences of tokens in a text that starts at an offset. The bound is at least the length
of the text. -/
def occurrencesFrom : Nat → Nat → List Char → List Occurrence
  | 0, _, _ => []
  | _, _, [] => []
  | bound + 1, offset, c :: rest =>
    if c = '$' then
      let (segments, after) := splitToken rest
      let candidate := '$' :: segments
      let others := occurrencesFrom bound (offset + Text.byteLength candidate) after
      match classify? candidate after with
      | some (path, membership) =>
        ⟨path, membership, ⟨offset, offset + Text.byteLength path⟩⟩ :: others
      | none => others
    else occurrencesFrom bound (offset + c.utf8Size) rest

/-- The occurrences of tokens in a condition. -/
def occurrences (condition : List Char) : List Occurrence :=
  occurrencesFrom condition.length 0 condition

namespace Reference

/-- The references with one more occurrence, which joins the one of its path. -/
def add (o : Occurrence) : List Reference → List Reference
  | [] => [⟨String.ofList o.path, o.membership, [o.span]⟩]
  | r :: rest =>
    if r.path.toList = o.path then
      { r with membership := r.membership || o.membership, spans := r.spans ++ [o.span] } :: rest
    else r :: add o rest

/-- The references of a condition, one for each path. -/
def all (condition : String) : List Reference :=
  (occurrences condition.toList).foldl (fun rs o => add o rs) []

/-- The reference of a condition. -/
def scan (condition : String) : Except Failure Reference :=
  match all condition with
  | [] => .error (.noReference condition)
  | [r] => .ok r
  | rs => .error (.severalReferences condition (rs.map (·.path)))

/-! ## Substitution -/

/-- A part of a text, or nothing where the offsets are no places of it. -/
def sliceOf (start stop : Nat) (cs : List Char) : List Char := (Text.slice? start stop cs).getD []

/-- The text from an offset on, with a name in place of each span. -/
def replaceSpans (name : List Char) (text : List Char) : Nat → List Span → List Char
  | last, [] => sliceOf last (Text.byteLength text) text
  | last, s :: rest => sliceOf last s.start text ++ name ++ replaceSpans name text s.stop rest

/-- The condition with a name in place of each token. -/
def substitute (r : Reference) (condition name : String) : String :=
  String.ofList (replaceSpans name.toList condition.toList 0 r.spans)

end Reference

end QualityGate.Condition
