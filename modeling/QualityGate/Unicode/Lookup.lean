import QualityGate.Unicode.Age
import QualityGate.Unicode.Boundary
import QualityGate.Unicode.Category
import QualityGate.Unicode.Property
import QualityGate.Unicode.Script

/-!
# Properties by name

The characters that a name denotes: a property they have, a category or a script they belong to, or
a property together with one of its values. Names are compared without regard to case, blanks,
underscores, hyphens and a leading "is".

`named?` looks a single name up, first among the properties, then among the categories and then
among the scripts; `valued?` looks up a value of a property.
-/

namespace QualityGate.Unicode

open Text (Table Ranges)

/-! ## Names -/

/-- The name in the form in which names are compared. -/
def plainName (name : List Char) : List Char :=
  let kept (cs : List Char) : List Char :=
    (cs.filter fun c => c != ' ' && c != '_' && c != '-' && c.toNat < 0x80).map Char.toLower
  match name with
  | i :: s :: rest =>
    if i.toLower = 'i' ∧ s.toLower = 's' then
      if kept rest = ['c'] then ['i', 's', 'c'] else kept rest
    else kept name
  | _ => kept name

/-- Whether one of the names is the given one, which is in the form in which names are compared. -/
def listed (name : List Char) (names : List String) : Bool :=
  names.any fun n => plainName n.toList == name

/-- The first set with the given name. -/
def findTable? (name : List Char) (tables : List Table) : Option Table :=
  tables.find? fun t => listed name t.names

/-! ## Categories and scripts -/

/-- The characters of a category, or of a group of categories. -/
def category? (name : List Char) : Option Ranges :=
  if name = "any".toList then some (Text.complement [])
  else if name = "ascii".toList then some [(0, 0x7F)]
  else if name = "assigned".toList then some (Text.complement (inCategories ["Cn"]))
  else if listed name ["Cn", "Unassigned"] then some (inCategories ["Cn"])
  else match categoryGroups.find? fun g => listed name g.1 with
    | some (_, members) => some (inCategories members)
    | none => (findTable? name categories).map Table.ranges

/-- The characters of a script. -/
def script? (name : List Char) : Option Ranges := (findTable? name scripts).map Table.ranges

/-! ## Properties -/

/-- The characters with a property of the given long name that is written in a table. -/
def withProperty (name : String) : Ranges :=
  ((properties.filter fun t => t.names.contains name).map Table.ranges).flatten

/-- The characters of the classes of word boundaries that join the letters around them. -/
def innerPunctuation : Ranges :=
  ((wordBreaks.filter fun t =>
    ["MidLetter", "MidNumLet", "Single_Quote"].any t.names.contains).map Table.ranges).flatten

/-- The letters of the standard and what else may start an identifier. -/
def identifierStarts : Ranges :=
  Text.difference
    (Text.normalize (inCategories ["Lu", "Ll", "Lt", "Lm", "Lo", "Nl"]
      ++ withProperty "Other_ID_Start"))
    (Text.normalize (withProperty "Pattern_Syntax" ++ withProperty "Pattern_White_Space"))

/-- What may continue an identifier. -/
def identifierParts : Ranges :=
  Text.difference
    (Text.normalize (identifierStarts ++ inCategories ["Mn", "Mc", "Nd", "Pc"]
      ++ withProperty "Other_ID_Continue"))
    (Text.normalize (withProperty "Pattern_Syntax" ++ withProperty "Pattern_White_Space"))

/-- The characters that no longer start an identifier once texts are normalized. -/
def unstableStarts : Ranges :=
  [(0x37A, 0x37A), (0xE33, 0xE33), (0xEB3, 0xEB3), (0x309B, 0x309C), (0xFC5E, 0xFC63),
    (0xFDFA, 0xFDFB), (0xFE70, 0xFE70), (0xFE72, 0xFE72), (0xFE74, 0xFE74), (0xFE76, 0xFE76),
    (0xFE78, 0xFE78), (0xFE7A, 0xFE7A), (0xFE7C, 0xFE7C), (0xFE7E, 0xFE7E), (0xFF9E, 0xFF9F)]

/-- The characters that may no longer continue an identifier once texts are normalized. -/
def unstableParts : Ranges :=
  unstableStarts.filter fun r => r.1 != 0xE33 && r.1 != 0xEB3 && r.1 != 0xFF9E

/-- The letters of lower case. -/
def lowercase : Ranges := Text.normalize (inCategories ["Ll"] ++ withProperty "Other_Lowercase")

/-- The letters of upper case. -/
def uppercase : Ranges := Text.normalize (inCategories ["Lu"] ++ withProperty "Other_Uppercase")

/-- The marks that extend the character before them. -/
def graphemeExtend : Ranges :=
  Text.normalize (inCategories ["Mn", "Me"] ++ withProperty "Other_Grapheme_Extend")

/-- The properties that follow from others: their names, and their characters. -/
def derived? (name : List Char) : Option Ranges :=
  if listed name ["Alpha", "Alphabetic"] then
    some (Text.normalize (inCategories ["Lu", "Ll", "Lt", "Lm", "Lo", "Nl"]
      ++ withProperty "Other_Alphabetic"))
  else if listed name ["Lower", "Lowercase"] then some lowercase
  else if listed name ["Upper", "Uppercase"] then some uppercase
  else if listed name ["Cased"] then
    some (Text.normalize (lowercase ++ uppercase ++ inCategories ["Lt"]))
  else if listed name ["CI", "Case_Ignorable"] then
    some (Text.normalize (inCategories ["Mn", "Me", "Cf", "Lm", "Sk"] ++ innerPunctuation))
  else if listed name ["Gr_Ext", "Grapheme_Extend"] then some graphemeExtend
  else if listed name ["Gr_Base", "Grapheme_Base"] then
    some (Text.complement (inCategories ["Cc", "Cf", "Co", "Cn", "Zl", "Zp"] ++ graphemeExtend))
  else if listed name ["Math"] then
    some (Text.normalize (inCategories ["Sm"] ++ withProperty "Other_Math"))
  else if listed name ["IDS", "ID_Start"] then some identifierStarts
  else if listed name ["IDC", "ID_Continue"] then some identifierParts
  else if listed name ["XIDS", "XID_Start"] then
    some (Text.difference identifierStarts unstableStarts)
  else if listed name ["XIDC", "XID_Continue"] then
    some (Text.difference identifierParts unstableParts)
  else none

/-- The characters that have the property of the given name. -/
def property? (name : List Char) : Option Ranges :=
  (derived? name).or ((findTable? name properties).map Table.ranges)

/-! ## Lookup -/

/-- The characters that a single name denotes. -/
def named? (name : List Char) : Option Ranges :=
  let name := plainName name
  (property? name).or ((category? name).or (script? name))

/-- The characters for which a property has a value. -/
def valued? (property value : List Char) : Option Ranges :=
  let property := plainName property
  let value := plainName value
  if listed property ["gc", "General_Category"] then category? value
  else if listed property ["sc", "Script"] then script? value
  else if listed property ["scx", "Script_Extensions"] then
    (findTable? value scripts).map usedInScript
  else if listed property ["age", "Age"] then
    (findTable? value ages).map fun t =>
      Text.normalize (t.names.head?.elim [] fun version => assignedUpTo version ages)
  else if listed property ["GCB", "Grapheme_Cluster_Break"] then
    (findTable? value graphemeBreaks).map Table.ranges
  else if listed property ["WB", "Word_Break"] then
    (findTable? value wordBreaks).map Table.ranges
  else if listed property ["SB", "Sentence_Break"] then
    (findTable? value sentenceBreaks).map Table.ranges
  else none

end QualityGate.Unicode
