/-!
# Finding and replacing parts of texts
-/

namespace QualityGate.Text

/-- Whether the first text is a part of the second. -/
def occursIn (part : List Char) : List Char → Bool
  | [] => part.isEmpty
  | c :: cs => part.isPrefixOf (c :: cs) || occursIn part cs

/-- The text with the first occurrence of a part replaced. -/
def replaceFirst (part replacement : List Char) : List Char → List Char
  | [] => if part.isEmpty then replacement else []
  | c :: cs =>
    if part.isPrefixOf (c :: cs) then replacement ++ (c :: cs).drop part.length
    else c :: replaceFirst part replacement cs

end QualityGate.Text
