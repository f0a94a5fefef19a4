import QualityGate.Proofs.Report.Line

/-!
# The colours of console reports

A terminal reads a text as characters and style sequences (`marks`), and shows each character in the
look that the sequences before it have set (`shown`). A coloured report consists of plain texts and
of painted labels (`GateReport.parts`). Without its style sequences it is the plain report, and what
stands outside of labels is shown in the plain look, unless the texts in the report have escape
characters of their own (`Report.erase_console`).
-/

namespace QualityGate

/-! ## Style sequences -/

/-- What a terminal reads: a style sequence with its digits, or another character. -/
inductive Mark where
  | style (digits : List Char)
  | char (c : Char)
deriving DecidableEq

/-- The digits of the style sequence at the start of a text, if there is one. -/
def styleAt? : List Char → Option (List Char)
  | '\x1b' :: '[' :: cs =>
    if (cs.dropWhile Char.isDigit).head? = some 'm' then some (cs.takeWhile Char.isDigit) else none
  | _ => none

/-- The marks of a text behind characters that have been read already. -/
def marksBehind : Nat → List Char → List Mark
  | _, [] => []
  | read + 1, _ :: cs => marksBehind read cs
  | 0, c :: cs => match styleAt? (c :: cs) with
    | some digits => .style digits :: marksBehind (digits.length + 2) cs
    | none => .char c :: marksBehind 0 cs

/-- The marks of a text. An escape character that starts no style sequence is a character. -/
def marks (text : List Char) : List Mark := marksBehind 0 text

/-- The characters among marks. -/
def erase (marks : List Mark) : List Char := marks.filterMap fun
  | .style _ => none
  | .char c => some c

section Marks

variable {text digits : List Char}

theorem marksBehind_append (front rest : List Char) :
    marksBehind front.length (front ++ rest) = marks rest := by
  induction front with
  | nil => rfl
  | cons c front ih => exact ih

/-- A text without escape characters has no style sequences. -/
theorem marks_append (plain : '\x1b' ∉ text) (rest : List Char) :
    marks (text ++ rest) = text.map Mark.char ++ marks rest := by
  induction text with
  | nil => rfl
  | cons c text ih =>
      have none (cs : List Char) : styleAt? (c :: cs) = none := by
        unfold styleAt?
        split
        case h_1 same =>
          rw [(List.cons.inj same).1] at plain
          exact absurd List.mem_cons_self plain
        case h_2 => rfl
      have behind := ih fun member => plain (List.mem_cons_of_mem c member)
      rw [marks] at behind ⊢
      rw [List.cons_append, marksBehind, none, behind]
      rfl

/-- A style sequence is read as one mark. -/
theorem marks_style (known : ∀ d ∈ digits, d.isDigit = true) (rest : List Char) :
    marks ('\x1b' :: '[' :: (digits ++ 'm' :: rest)) = .style digits :: marks rest := by
  have sequence : styleAt? ('\x1b' :: '[' :: (digits ++ 'm' :: rest)) = some digits := by
    have front : (digits ++ 'm' :: rest).takeWhile Char.isDigit = digits := by
      rw [List.takeWhile_append_of_pos known]
      exact List.append_nil _
    rw [styleAt?, List.dropWhile_append_of_pos known, front]
    rfl
  have read : marksBehind (digits.length + 2) ('[' :: (digits ++ 'm' :: rest)) = marks rest := by
    have shape : '[' :: (digits ++ 'm' :: rest) = ('[' :: (digits ++ ['m'])) ++ rest := by simp
    have length : digits.length + 2 = ('[' :: (digits ++ ['m'])).length := by simp
    rw [shape, length, marksBehind_append]
  rw [marks, marksBehind, sequence]
  dsimp only
  rw [read]

end Marks

/-! ## Looks -/

/-- How characters are shown. -/
structure Look where
  bold : Bool
  colour : Option Signal
deriving DecidableEq

namespace Look

/-- Neither bold nor coloured. -/
def plain : Look := ⟨false, none⟩

/-- The look behind a style sequence: `0` sets the plain look, `1` bold type, `39` takes the colour
away, and each colour has digits of its own. Other sequences change nothing. -/
def after (look : Look) (digits : List Char) : Look :=
  if digits = ['0'] then plain
  else if digits = ['1'] then { look with bold := true }
  else if digits = ['3', '9'] then { look with colour := none }
  else match [Signal.red, .yellow, .green].find? fun s => (Report.colour s).toList = digits with
    | some s => { look with colour := some s }
    | none => look

end Look

/-- The characters that a terminal shows, each in its look. -/
def shown (look : Look) : List Mark → List (Char × Look)
  | [] => []
  | .style digits :: marks => shown (look.after digits) marks
  | .char c :: marks => (c, look) :: shown look marks

theorem shown_chars (look : Look) (text : List Char) (marks : List Mark) :
    shown look (text.map Mark.char ++ marks) = text.map (·, look) ++ shown look marks := by
  induction text with
  | nil => rfl
  | cons c text ih =>
      rw [List.map_cons, List.cons_append, shown, ih]
      rfl

/-! ## Parts -/

/-- A part of a report: a text that is never painted, or a label with the signal in whose colour it
is painted. -/
inductive Part where
  | text (chars : List Char)
  | label (signal : Option Signal) (word : String)

namespace Part

/-- The characters of a part. -/
def chars : Part → List Char
  | .text chars => chars
  | .label _ word => word.toList

/-- What is written of a part. -/
def written (colours : Bool) : Part → List Char
  | .text chars => chars
  | .label signal word => (Report.paint colours signal word).toList

/-- The style sequences in front of a label. -/
def opening : Option Signal → List Mark
  | some s => [.style ['1'], .style (Report.colour s).toList]
  | none => [.style ['1']]

/-- The style sequences behind a label. -/
def closing : Option Signal → List Mark
  | some _ => [.style ['3', '9'], .style ['0']]
  | none => [.style ['0']]

/-- The marks of a part: a label stands between the sequences that open a style and those that close
it. -/
def marks : Part → List Mark
  | .text chars => chars.map .char
  | .label signal word => opening signal ++ word.toList.map .char ++ closing signal

/-- What is shown of a part: a label is bold and in its colour, a text is plain. -/
def shown : Part → List (Char × Look)
  | .text chars => chars.map (·, .plain)
  | .label signal word => word.toList.map (·, ⟨true, signal⟩)

/-- The signal and the text of a part that is a label. -/
def label? : Part → Option (Option Signal × String)
  | .text _ => none
  | .label signal word => some (signal, word)

end Part

section Parts

variable {part : Part} {parts : List Part}

theorem marks_style_append {code : String} (known : code.toList.all Char.isDigit = true)
    (rest : List Char) :
    marks ((Report.style code).toList ++ rest) = .style code.toList :: marks rest := by
  rw [Report.style, String.toList_append, String.toList_append, List.append_assoc,
    List.append_assoc]
  exact marks_style (List.all_eq_true.mp known) rest

theorem isDigit_colour (s : Signal) : (Report.colour s).toList.all Char.isDigit = true := by
  cases s <;> rfl

/-- A part is read as its marks. -/
theorem marks_written (plain : '\x1b' ∉ part.chars) (rest : List Char) :
    marks (part.written true ++ rest) = part.marks ++ marks rest := by
  cases part with
  | text chars => exact marks_append plain rest
  | label signal word =>
      have label (rest : List Char) : marks (word.toList ++ rest) =
          word.toList.map .char ++ marks rest := marks_append plain rest
      cases signal with
      | none =>
          have painted : Part.written true (.label none word) =
              (Report.style "1").toList ++ (word.toList ++ (Report.style "0").toList) := by
            simp [Part.written, Report.paint]
          rw [painted, List.append_assoc, List.append_assoc, marks_style_append rfl, label,
            marks_style_append rfl]
          simp [Part.marks, Part.opening, Part.closing]
      | some s =>
          have painted : Part.written true (.label (some s) word) =
              (Report.style "1").toList ++ ((Report.style (Report.colour s)).toList ++
                (word.toList ++ ((Report.style "39").toList ++ (Report.style "0").toList))) := by
            simp [Part.written, Report.paint]
          rw [painted, List.append_assoc, List.append_assoc, List.append_assoc, List.append_assoc,
            marks_style_append rfl, marks_style_append (isDigit_colour s), label,
            marks_style_append rfl, marks_style_append rfl]
          simp [Part.marks, Part.opening, Part.closing]

/-- A text in parts is read as the marks of its parts. -/
theorem marks_flatMap (plain : ∀ part ∈ parts, '\x1b' ∉ part.chars) :
    marks (parts.flatMap (Part.written true)) = parts.flatMap Part.marks := by
  induction parts with
  | nil => rfl
  | cons part parts ih =>
      obtain ⟨own, others⟩ := List.forall_mem_cons.mp plain
      rw [List.flatMap_cons, marks_written own, ih others, List.flatMap_cons]

theorem erase_append (front back : List Mark) : erase (front ++ back) = erase front ++ erase back :=
  List.filterMap_append ..

theorem erase_chars (text : List Char) : erase (text.map Mark.char) = text := by
  rw [erase, List.filterMap_map]
  exact List.filterMap_some ..

theorem written_false (part : Part) : part.written false = part.chars := by
  cases part <;> rfl

/-- Without style sequences, the characters of a part are left. -/
theorem erase_marks (part : Part) : erase part.marks = part.chars := by
  cases part with
  | text chars => exact erase_chars chars
  | label signal word =>
      rw [Part.marks, erase_append, erase_append, erase_chars]
      cases signal <;> exact List.append_nil _

theorem erase_flatMap (parts : List Part) :
    erase (parts.flatMap Part.marks) = parts.flatMap Part.chars := by
  induction parts with
  | nil => rfl
  | cons part parts ih =>
      rw [List.flatMap_cons, erase_append, erase_marks, ih, List.flatMap_cons]

/-- The styles of a part begin and end in it. -/
theorem shown_marks (part : Part) (rest : List Mark) :
    shown .plain (part.marks ++ rest) = part.shown ++ shown .plain rest := by
  cases part with
  | text chars => exact shown_chars .plain chars rest
  | label signal word =>
      have opens (rest : List Mark) :
          shown .plain (Part.opening signal ++ rest) = shown ⟨true, signal⟩ rest := by
        rcases signal with _ | s
        · rfl
        · cases s <;> rfl
      have closes (rest : List Mark) :
          shown ⟨true, signal⟩ (Part.closing signal ++ rest) = shown .plain rest := by
        cases signal <;> rfl
      rw [Part.marks, List.append_assoc, List.append_assoc, opens, shown_chars, closes]
      rfl

theorem shown_flatMap (parts : List Part) :
    shown .plain (parts.flatMap Part.marks) = parts.flatMap Part.shown := by
  induction parts with
  | nil => rfl
  | cons part parts ih => rw [List.flatMap_cons, shown_marks, ih, List.flatMap_cons]

end Parts

/-! ## The parts of a report -/

/-- The label of an entry, as it is printed. -/
def CheckReport.label (c : CheckReport) : Option Signal × String :=
  match c.outcome with
  | .evaluated result => (result.status.signal?, Report.pad result.status.label)
  | .failed _ => (some .red, Report.pad Report.failureLabel)

/-- What is printed behind the label of an entry. -/
def CheckReport.behindLabel (c : CheckReport) : List Char :=
  match c.outcome with
  | .evaluated result => ' ' :: (c.name.toList ++ '\n' ::
      if result.holds then []
      else result.packages.flatMap fun p => (Report.packageLine p).toList ++ ['\n'])
  | .failed failure => ' ' :: (c.name.toList ++ ':' :: ' ' :: (failure.toList ++ ['\n']))

/-- The labels of a report, as they are printed: those of its checks, and that of the verdict. -/
def GateReport.labels (r : GateReport) : List (Option Signal × String) :=
  r.checks.map CheckReport.label ++ [(r.verdict.signal?, r.verdict.label)]

/-- What is printed in front of the verdict. -/
def GateReport.beforeVerdict (r : GateReport) : List Char :=
  (if r.checks.isEmpty then [] else ['\n'])
    ++ r.concatenation.toList.flatMap (fun result =>
      "Concatenation: ".toList ++ result.condition.toList ++ ['\n'])
    ++ "Verdict: ".toList

/-- The parts of an entry. -/
def CheckReport.parts (c : CheckReport) : List Part :=
  [.label c.label.1 c.label.2, .text c.behindLabel]

/-- The parts of a report. -/
def GateReport.parts (r : GateReport) : List Part :=
  r.checks.flatMap CheckReport.parts
    ++ [.text r.beforeVerdict, .label r.verdict.signal? r.verdict.label, .text ['\n']]

/-- The texts that are printed of a report: names, free texts and the verdict. -/
def GateReport.printed (r : GateReport) : List String :=
  r.checks.map (·.name) ++ r.freeTexts ++ [r.verdict.label]

namespace Report

variable {c : CheckReport} {r : GateReport}

/-- What is written of an entry: its label, and what stands behind it. -/
theorem written_check (colours : Bool) (c : CheckReport) :
    (checkLines colours c).flatMap (fun line => line.toList ++ ['\n']) =
      c.parts.flatMap (Part.written colours) := by
  obtain ⟨name, outcome⟩ := c
  cases outcome with
  | evaluated result =>
      cases holds : result.holds <;>
        simp [checkLines, CheckReport.parts, CheckReport.label, CheckReport.behindLabel,
          Part.written, holds, List.flatMap_map]
  | failed failure =>
      simp [checkLines, CheckReport.parts, CheckReport.label, CheckReport.behindLabel, Part.written]

/-- A report is written part by part. -/
theorem toList_console (colours : Bool) (r : GateReport) :
    (console colours r).toList = r.parts.flatMap (Part.written colours) := by
  have checks :
      (r.checks.flatMap (checkLines colours)).flatMap (fun line => line.toList ++ ['\n']) =
      (r.checks.flatMap CheckReport.parts).flatMap (Part.written colours) := by
    rw [List.flatMap_assoc, List.flatMap_assoc]
    exact List.flatMap_congr fun c _ => written_check colours c
  have lines : (console colours r).toList =
      (consoleLines colours r).flatMap fun line => line.toList ++ ['\n'] := by
    rw [console, String.toList_join, List.flatMap_map]
    exact List.flatMap_congr fun line _ => String.toList_append
  rw [lines, consoleLines_eq, List.flatMap_append, List.flatMap_append, List.flatMap_append, checks,
    GateReport.parts, List.flatMap_append]
  cases empty : r.checks.isEmpty <;>
    simp [GateReport.beforeVerdict, Part.written, empty, List.flatMap_map]

/-- The labels among the parts of a report are its labels. -/
theorem labels_parts (r : GateReport) : r.parts.filterMap Part.label? = r.labels := by
  have checks : (r.checks.flatMap CheckReport.parts).filterMap Part.label? =
      r.checks.map CheckReport.label := by
    induction r.checks with
    | nil => rfl
    | cons c checks ih =>
        rw [List.flatMap_cons, List.filterMap_append, ih, List.map_cons]
        rfl
  rw [GateReport.parts, List.filterMap_append, checks]
  rfl

/-- The parts of an entry have escape characters only if its texts have some: in values they are
escaped. -/
theorem notMem_checkParts (named : '\x1b' ∉ c.name.toList)
    (free : ∀ text ∈ c.freeTexts, '\x1b' ∉ text.toList) :
    ∀ part ∈ c.parts, '\x1b' ∉ part.chars := by
  have padded {label : String} (unescaped : '\x1b' ∉ label.toList) :
      '\x1b' ∉ (pad label).toList := by
    rw [pad, String.toList_ofList, List.mem_append]
    rintro (member | blank)
    · exact unescaped member
    · exact absurd (List.eq_of_mem_replicate blank) (by decide)
  have package (p : ReasonPackage) : '\x1b' ∉ (packageLine p).toList := fun member =>
    absurd (printable_packageLine p _ member) (by decide)
  obtain ⟨name, outcome⟩ := c
  dsimp only at named
  cases outcome with
  | evaluated result =>
      have behind : '\x1b' ∉ CheckReport.behindLabel ⟨name, .evaluated result⟩ := by
        cases holds : result.holds <;> simp [CheckReport.behindLabel, holds, named, package]
      have label := padded (free result.status.label List.mem_cons_self)
      exact List.forall_mem_cons.mpr ⟨label, List.forall_mem_singleton.mpr behind⟩
  | failed failure =>
      have behind : '\x1b' ∉ CheckReport.behindLabel ⟨name, .failed failure⟩ := by
        simp [CheckReport.behindLabel, named, free failure List.mem_cons_self]
      exact List.forall_mem_cons.mpr ⟨padded (by decide), List.forall_mem_singleton.mpr behind⟩

theorem notMem_parts (plain : ∀ text ∈ r.printed, '\x1b' ∉ text.toList) :
    ∀ part ∈ r.parts, '\x1b' ∉ part.chars := by
  simp only [GateReport.printed, GateReport.freeTexts, List.forall_mem_append] at plain
  obtain ⟨⟨names, free, combined⟩, verdict⟩ := plain
  rw [GateReport.parts, List.forall_mem_append]
  constructor
  · intro part member
    obtain ⟨c, among, member⟩ := List.mem_flatMap.mp member
    refine notMem_checkParts (names _ (List.mem_map_of_mem among)) (fun text chosen => ?_)
      part member
    exact free text (List.mem_flatMap.mpr ⟨c, among, chosen⟩)
  · have condition : '\x1b' ∉ r.concatenation.toList.flatMap fun result =>
        "Concatenation: ".toList ++ result.condition.toList ++ ['\n'] := by
      rw [List.mem_flatMap]
      rintro ⟨result, has, member⟩
      have unescaped := combined _ (List.mem_map_of_mem has)
      simp [unescaped] at member
    have before : '\x1b' ∉ r.beforeVerdict := by
      simp only [GateReport.beforeVerdict, List.mem_append, not_or]
      exact ⟨⟨by split <;> decide, condition⟩, by decide⟩
    refine List.forall_mem_cons.mpr ⟨before, List.forall_mem_cons.mpr ⟨?_, ?_⟩⟩
    · exact verdict _ List.mem_cons_self
    · exact List.forall_mem_singleton.mpr (by decide)

/-- **Colours only add style sequences around labels.** If the texts in a report have no escape
characters, its coloured text is its plain text when the style sequences are deleted. Those stand
around the labels of the checks and of the verdict only, and every style is closed where its label
ends: a terminal shows labels in bold type and in their colours, and everything else plainly. -/
theorem erase_console (plain : ∀ text ∈ r.printed, '\x1b' ∉ text.toList) :
    erase (marks (console true r).toList) = (console false r).toList ∧
    (console false r).toList = r.parts.flatMap Part.chars ∧
    r.parts.filterMap Part.label? = r.labels ∧
    marks (console true r).toList = r.parts.flatMap Part.marks ∧
    shown .plain (marks (console true r).toList) = r.parts.flatMap Part.shown := by
  have coloured : marks (console true r).toList = r.parts.flatMap Part.marks := by
    rw [toList_console, marks_flatMap (notMem_parts plain)]
  have uncoloured : (console false r).toList = r.parts.flatMap Part.chars := by
    rw [toList_console]
    exact List.flatMap_congr fun part _ => written_false part
  refine ⟨?_, uncoloured, labels_parts r, coloured, ?_⟩
  · rw [coloured, erase_flatMap, uncoloured]
  · rw [coloured, shown_flatMap]

/-- A label wider than others, a failure, and a value with an escape character of its own. -/
theorem erase_console_escaped :
    let r : GateReport :=
      ⟨[⟨"a", .evaluated ⟨"$", "$ == 1", ⟨"UNDETERMINED"⟩, false,
          [⟨.array [.string "\x1b[1m"], none⟩]⟩⟩, ⟨"b", .failed "no value"⟩],
        some ⟨"a || b", .red⟩, .red⟩
    (∀ text ∈ r.printed, '\x1b' ∉ text.toList) ∧
    erase (marks (console true r).toList) = (console false r).toList ∧
    r.parts.filterMap Part.label? =
      [(none, "UNDETERMINED"), (some .red, "ERROR  "), (some .red, "RED")] := by
  intro r
  have plain : ∀ text ∈ r.printed, '\x1b' ∉ text.toList := by decide +kernel
  obtain ⟨erased, -, labels, -, -⟩ := erase_console plain
  exact ⟨plain, erased, labels.trans (by decide +kernel)⟩

end Report

end QualityGate
