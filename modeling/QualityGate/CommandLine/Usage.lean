/-!
# Words of a command line

A command takes options, some of them with a value, and possibly free words. `readWords` sorts the
words of a command line into both and reports the first word that fits nowhere. The value of an
option is checked when the next option begins or the words end, so a word of no meaning is reported
before the bad value in front of it.
-/

namespace QualityGate.CommandLine

/-- What is wrong with the words of a command line, or what is asked for instead of a command. -/
inductive UsageFault where
  /-- The user asks for help. -/
  | help
  /-- The user asks for the version. -/
  | version
  /-- There is no command. -/
  | noCommand
  | unknownCommand
  | unknownArgument
  | missingArgument
  /-- An option has no value, or none of those that it may have. -/
  | invalidValue
  /-- The value of an option cannot be read. -/
  | unreadableValue
  /-- A switch has a value. -/
  | needlessValue
  | repeatedArgument
deriving DecidableEq

/-- Whether the fault is a request that is met, and not a mistake. -/
def UsageFault.isRequest : UsageFault → Bool
  | help | version => true
  | _ => false

/-- An option of a command: its long name, its letter, and how its value is checked, unless it is a
switch. -/
structure OptionForm where
  name : String
  letter : Option Char
  check : Option (String → Option UsageFault)

/-- The form of a switch. -/
def OptionForm.switch (name : String) : OptionForm := ⟨name, none, none⟩

/-- The form of an option with any value. -/
def OptionForm.free (name : String) (letter : Option Char) : OptionForm :=
  ⟨name, letter, some fun _ => none⟩

/-- The form of an option with one of a few values. -/
def OptionForm.choice (name : String) (values : List String) : OptionForm :=
  ⟨name, none, some fun v => if values.contains v then none else some .invalidValue⟩

/-- The words of a command so far. -/
structure Words where
  /-- The options with their values, and switches with an empty one. -/
  options : List (String × String)
  /-- The words that belong to no option. -/
  free : List String
  /-- An option whose value is still to be checked, and the value if it is there. -/
  pending : Option (OptionForm × Option String)
  /-- Whether all further words are free. -/
  onlyFree : Bool

namespace Words

/-- No words. -/
def empty : Words := ⟨[], [], none, false⟩

/-- Stores an option with its value. -/
def store (w : Words) (o : OptionForm) (value : Option String) : Except UsageFault Words :=
  if (w.options.lookup o.name).isSome then .error .repeatedArgument
  else match o.check, value with
    | none, _ => .ok { w with options := (o.name, "") :: w.options }
    | some _, none => .error .invalidValue
    | some check, some v => match check v with
      | some fault => .error fault
      | none => .ok { w with options := (o.name, v) :: w.options }

/-- Stores the option that waits for its check. -/
def settle (w : Words) : Except UsageFault Words :=
  match w.pending with
  | none => .ok w
  | some (_, none) => .error .invalidValue
  | some (o, value) => { w with pending := none }.store o value

/-- Takes an option, with the value that is part of its word if there is one. -/
def takeOption (w : Words) (o : OptionForm) (attached : Option String) :
    Except UsageFault Words := do
  let w ← w.settle
  match o.check, attached with
  | none, none => w.store o none
  | none, some _ => .error .needlessValue
  | some _, none => return { w with pending := some (o, none) }
  | some _, some v => w.store o (some v)

/-- Takes a word that may be free, of which there may be so many. -/
def takeFree (w : Words) (limit : Nat) (word : String) : Except UsageFault Words :=
  if w.free.length < limit then do
    let w ← w.settle
    return { w with free := w.free ++ [word] }
  else .error .unknownArgument

/-- Asks for help, which is granted if the words before are right. -/
def askHelp (w : Words) : Except UsageFault Words := do
  let _ ← w.settle
  .error .help

/-- Splits a word at the first equals sign. -/
def splitValue : List Char → List Char × Option (List Char)
  | [] => ([], none)
  | '=' :: rest => ([], some rest)
  | c :: rest =>
    let (name, value) := splitValue rest
    (c :: name, value)

/-- Takes a word that starts with two dashes, given without them. -/
def takeLong (forms : List OptionForm) (w : Words) (cs : List Char) : Except UsageFault Words :=
  let (name, value) := splitValue cs
  if name = "help".toList then w.askHelp
  else match forms.find? fun o => o.name.toList == name with
    | some o => w.takeOption o (value.map String.ofList)
    | none => .error .unknownArgument

/-- Takes a word that starts with one dash, given without it. -/
def takeShort (forms : List OptionForm) (w : Words) (c : Char) (rest : List Char) :
    Except UsageFault Words :=
  if c = 'h' then w.askHelp
  else match forms.find? fun o => o.letter == some c with
    | some o => w.takeOption o (match rest with
      | [] => none
      | '=' :: value => some (String.ofList value)
      | value => some (String.ofList value))
    | none => .error .unknownArgument

/-- Takes the next word. -/
def take (forms : List OptionForm) (limit : Nat) (w : Words) (word : String) :
    Except UsageFault Words :=
  if w.onlyFree then w.takeFree limit word
  else match word.toList with
    | ['-', '-'] => .ok { w with onlyFree := true }
    | '-' :: '-' :: rest => w.takeLong forms rest
    | '-' :: c :: rest => w.takeShort forms c rest
    | _ => match w.pending with
      | some (o, none) => .ok { w with pending := some (o, some word) }
      | _ => w.takeFree limit word

end Words

/-- Reads the words of a command with options of the given forms and with so many free words. -/
def readWords (forms : List OptionForm) (limit : Nat) (words : List String) :
    Except UsageFault Words := do
  let w ← words.foldlM (fun w word => w.take forms limit word) Words.empty
  w.settle

end QualityGate.CommandLine
