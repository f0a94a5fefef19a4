/-!
# Directories

The files that a command works on, as a list of names with texts. Names are relative paths; a
directory is there if a file lies in it.
-/

namespace QualityGate.CommandLine

/-- What a command sees of the files around it. -/
structure Files where
  read? : String → Option String
  isWritable : String → Bool

/-- Text files by name. -/
structure Directory where
  files : List (String × String)

namespace Directory

/-- Splits a path at its slashes. -/
def splitPath : List Char → List (List Char)
  | [] => [[]]
  | '/' :: rest => [] :: splitPath rest
  | c :: rest => match splitPath rest with
    | part :: parts => (c :: part) :: parts
    | [] => [[c]]

/-- The parts of a path that name something. -/
def partsOf (path : String) : List (List Char) :=
  (splitPath path.toList).filter fun part => !part.isEmpty && part != ['.']

/-- Whether a path names a file by its end. -/
def namesFile (path : String) : Bool :=
  match (splitPath path.toList).getLast? with
  | some part =>
    !part.isEmpty && part != ['.'] && part != ['.', '.'] && path.toList.head? != some '/'
  | none => false

/-- Whether parts lead to a directory. -/
def isDirectory (d : Directory) (parts : List (List Char)) : Bool :=
  parts.isEmpty || d.files.any fun f =>
    parts.isPrefixOf (partsOf f.1) && parts.length < (partsOf f.1).length

/-- The text of the file at a path. -/
def read? (d : Directory) (path : String) : Option String :=
  if namesFile path then
    (d.files.find? fun f => partsOf f.1 == partsOf path).map (·.2)
  else none

/-- Whether a file can be written at a path: it lies in a directory and is none itself. -/
def isWritable (d : Directory) (path : String) : Bool :=
  namesFile path && d.isDirectory (partsOf path).dropLast && !d.isDirectory (partsOf path)

/-- A directory as seen by a command. -/
def view (d : Directory) : Files := ⟨d.read?, d.isWritable⟩

/-- The name of a path in a directory. -/
def nameOf (path : String) : String :=
  String.intercalate "/" ((partsOf path).map String.ofList)

/-- The files among those written that are new or have another text than before. -/
def changes (d : Directory) (written : List (String × String)) : List (String × String) :=
  (written.filter fun f => d.read? f.1 != some f.2).map fun f => (nameOf f.1, f.2)

end Directory

end QualityGate.CommandLine
