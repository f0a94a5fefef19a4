import QualityGate.Json.Basic

/-!
# Tables of TOML texts

A TOML text builds one table by statements: headers, which open a table or a further table of a
series, and assignments to keys of the open table. No key is assigned twice, and no table is opened
twice. `Table.toJson` forgets how a table came about.
-/

namespace QualityGate.Toml

/-- How a table came about. -/
inductive Origin where
  /-- By the header of a table inside of it. -/
  | implied
  /-- By a header of its own. -/
  | header
  /-- By the key of an assignment. -/
  | dotted
deriving DecidableEq

/-- What stands at a key of a table. -/
inductive Entry where
  | value (v : Json)
  | table (origin : Origin) (entries : List (String × Entry))
  /-- Tables opened one after the other, the last one first. -/
  | series (tables : List (List (String × Entry)))

/-- The entries of a table by key. -/
abbrev Table := List (String × Entry)

namespace Table

/-- The table with an entry set: in its place if the key is there, else at the end. -/
def set (key : String) (entry : Entry) : Table → Table
  | [] => [(key, entry)]
  | (k, e) :: rest => if k = key then (k, entry) :: rest else (k, e) :: set key entry rest

/-- Changes the table at the end of a path. Tables that are missing on the way get the given origin.
Those that are there have to be of an origin that `enters` takes, which is told whether the path
ends with the table. Of a series the last table is entered. -/
def change (origin : Origin) (enters : Bool → Origin → Bool) (act : Table → Option Table) :
    List String → Table → Option Table
  | [], t => act t
  | key :: path, t =>
    match t.lookup key with
    | none => (change origin enters act path []).map fun sub => t.set key (.table origin sub)
    | some (.table o sub) =>
      if enters path.isEmpty o then
        (change origin enters act path sub).map fun sub => t.set key (.table o sub)
      else none
    | some (.series (last :: others)) =>
      if enters path.isEmpty .header then
        (change origin enters act path last).map fun last => t.set key (.series (last :: others))
      else none
    | some _ => none

/-- Splits a path into the tables on the way and the last key. -/
def splitPath? : List String → Option (List String × String)
  | [] => none
  | [key] => some ([], key)
  | key :: rest => (splitPath? rest).map fun (path, last) => (key :: path, last)

/-- Opens the table of a header. -/
def openTable (path : List String) (t : Table) : Option Table := do
  let (way, key) ← splitPath? path
  change .implied (fun _ _ => true) (fun sub => match sub.lookup key with
    | none => some (sub.set key (.table .header []))
    | some (.table .implied entries) => some (sub.set key (.table .header entries))
    | some _ => none) way t

/-- Opens a further table of a series. -/
def openSeries (path : List String) (t : Table) : Option Table := do
  let (way, key) ← splitPath? path
  change .implied (fun _ _ => true) (fun sub => match sub.lookup key with
    | none => some (sub.set key (.series [[]]))
    | some (.series tables) => some (sub.set key (.series ([] :: tables)))
    | some _ => none) way t

/-- Assigns a value to a key of a table. The table that a path leads to must not have come about by
a header, neither its own nor that of a table inside of it. -/
def assign (path : List String) (v : Json) (t : Table) : Option Table := do
  let (way, key) ← splitPath? path
  let enters (ends : Bool) (o : Origin) : Bool := o == .dotted || !ends && o == .implied
  change .dotted enters (fun sub => match sub.lookup key with
    | none => some (sub.set key (.value v))
    | some _ => none) way t

/-- Assigns a value to a key of the table that is open. -/
def assignIn (opened : List String) (path : List String) (v : Json) (t : Table) : Option Table :=
  change .header (fun _ _ => true) (assign path v) opened t

mutual

/-- The members of a table as JSON, in the order of its entries. -/
def members : List (String × Entry) → List (String × Json)
  | [] => []
  | (key, entry) :: rest => (key, entryJson entry) :: members rest

/-- The objects of a series, added to those already there. -/
def objects : List (List (String × Entry)) → List Json → List Json
  | [], items => items
  | t :: rest, items => objects rest (Json.ofMembers (members t) :: items)

/-- An entry as JSON. -/
def entryJson : Entry → Json
  | .value v => v
  | .table _ entries => Json.ofMembers (members entries)
  | .series tables => .array (objects tables [])

end

/-- A table as JSON. -/
def toJson (t : Table) : Json := Json.ofMembers (members t)

end Table

end QualityGate.Toml
