/-!
# Offsets in texts

Places in a text are counted in the bytes of its UTF-8 form, from the start of the text. An offset
inside a character is no place, and nothing can be cut there.
-/

namespace QualityGate.Text

/-- The number of bytes of a text. -/
def byteLength (cs : List Char) : Nat := cs.foldr (fun c n => c.utf8Size + n) 0

/-- The two parts of a text on either side of an offset, which has to lie between characters. -/
def splitAt? : Nat → List Char → Option (List Char × List Char)
  | 0, cs => some ([], cs)
  | _ + 1, [] => none
  | n + 1, c :: cs =>
    if c.utf8Size ≤ n + 1 then (splitAt? (n + 1 - c.utf8Size) cs).map fun (a, b) => (c :: a, b)
    else none
termination_by structural _ cs => cs

/-- The part of a text from one offset to another. -/
def slice? (start stop : Nat) (cs : List Char) : Option (List Char) := do
  let (_, rest) ← splitAt? start cs
  if start ≤ stop then
    let (part, _) ← splitAt? (stop - start) rest
    return part
  else none

end QualityGate.Text
