import QualityGate.Proofs.Check.Result
import QualityGate.Proofs.Configuration.Defect
import QualityGate.Proofs.Gate.Verdict
import QualityGate.Proofs.Json.Text
import QualityGate.Proofs.Path.Selection
import QualityGate.Report.Console

/-!
# The lines of console reports

A console report has a line for each of its parts (`GateReport.lineCount`) and one more for every
line feed in its free texts: the labels of statuses, the texts of failures and the concatenation.
Values are written as JSON, which has no line feeds, and names and verdicts have none. A line other
than the last looks like the verdict exactly if the label of a status does (`countP_startsVerdict`).
So the report keeps its lines if neither happens (`Report.isLaidOut_iff`).
-/

namespace QualityGate

/-! ## Lines of texts -/

/-- The lines of a text: what stands in front of each of its line feeds. -/
def linesOf (text : String) : List String :=
  ((text.toList.splitOn '\n').dropLast).map String.ofList

/-- How many line feeds there are in texts. -/
def breaksIn (texts : List String) : Nat := (texts.map fun text => text.toList.count '\n').sum

section Lines

variable {cs : List Char} {texts : List String}

@[simp] theorem breaksIn_nil : breaksIn [] = 0 := rfl

@[simp] theorem breaksIn_cons (text : String) (texts : List String) :
    breaksIn (text :: texts) = text.toList.count '\n' + breaksIn texts := rfl

@[simp] theorem breaksIn_append (texts texts' : List String) :
    breaksIn (texts ++ texts') = breaksIn texts + breaksIn texts' := by
  rw [breaksIn, List.map_append, List.sum_append]
  rfl

theorem breaksIn_eq_zero_iff : breaksIn texts = 0 ↔ ∀ text ∈ texts, '\n' ∉ text.toList := by
  induction texts with
  | nil => simp
  | cons text texts ih => simp [ih, List.count_eq_zero]

theorem length_splitOn (cs : List Char) : (cs.splitOn '\n').length = cs.count '\n' + 1 := by
  rw [List.splitOn_eq_splitOnP]
  induction cs with
  | nil => rfl
  | cons c cs ih =>
      rw [List.splitOnP_cons_eq_if_modifyHead, List.count_cons]
      split
      · rw [List.length_cons, ih]
      · rw [List.length_modifyHead, ih, Nat.add_zero]

theorem splitOn_of_notMem (whole : '\n' ∉ cs) : cs.splitOn '\n' = [cs] := by
  rw [List.splitOn_eq_splitOnP]
  refine List.splitOnP_eq_singleton fun c member => beq_eq_false_iff_ne.mpr ?_
  rintro rfl
  exact whole member

/-- Texts that are written line by line are cut where they have line feeds of their own. -/
theorem linesOf_join (texts : List String) :
    linesOf (String.join (texts.map (· ++ "\n"))) =
      texts.flatMap fun text => (text.toList.splitOn '\n').map String.ofList := by
  have pieces : (String.join (texts.map (· ++ "\n"))).toList.splitOn '\n' =
      (texts.flatMap fun text => text.toList.splitOn '\n') ++ [[]] := by
    induction texts with
    | nil => rfl
    | cons text texts ih =>
        have feed (rest : List Char) : text.toList ++ "\n".toList ++ rest =
            text.toList ++ '\n' :: rest := List.append_assoc ..
        rw [List.splitOn_eq_splitOnP] at ih ⊢
        rw [List.map_cons, String.join_cons, String.toList_append, String.toList_append, feed,
          List.splitOnP_append_cons _ _ (by rfl), ih, List.flatMap_cons, List.append_assoc,
          List.splitOn_eq_splitOnP]
  rw [linesOf, pieces, List.dropLast_concat, List.map_flatMap]

theorem length_linesOf_join (texts : List String) :
    (linesOf (String.join (texts.map (· ++ "\n")))).length = texts.length + breaksIn texts := by
  rw [linesOf_join]
  induction texts with
  | nil => rfl
  | cons text texts ih =>
      rw [List.flatMap_cons, List.length_append, ih, List.length_map, length_splitOn,
        List.length_cons, breaksIn_cons]
      omega

/-- Texts without line feeds are lines. -/
theorem linesOf_join_of_breaksIn (unbroken : breaksIn texts = 0) :
    linesOf (String.join (texts.map (· ++ "\n"))) = texts := by
  rw [linesOf_join]
  induction texts with
  | nil => rfl
  | cons text texts ih =>
      rw [breaksIn_cons, Nat.add_eq_zero_iff, List.count_eq_zero] at unbroken
      rw [List.flatMap_cons, splitOn_of_notMem unbroken.1, ih unbroken.2, List.map_singleton,
        String.ofList_toList]
      rfl

end Lines

/-! ## The layout of a report -/

/-- How many lines there are for a check: its own, and one for each package that is shown. -/
def CheckReport.lineCount (c : CheckReport) : Nat :=
  match c.outcome with
  | .evaluated result => 1 + if result.holds then 0 else result.packages.length
  | .failed _ => 1

/-- How many lines there are for a report. -/
def GateReport.lineCount (r : GateReport) : Nat :=
  (r.checks.map CheckReport.lineCount).sum + (if r.checks.isEmpty then 0 else 1)
    + r.concatenation.toList.length + 1

/-- Whether lines are those of a report: first those of each check, then an empty line if there are
checks, a line for the concatenation if there is one, and the verdict. -/
def GateReport.IsLaidOut (r : GateReport) (lines : List String) : Prop :=
  ∃ blocks combined, List.Forall₂ (fun (c : CheckReport) block => block.length = c.lineCount)
      r.checks blocks ∧
    combined.length = r.concatenation.toList.length ∧
    lines = blocks.flatten ++ (if r.checks.isEmpty then [] else [""]) ++ combined
      ++ ["Verdict: " ++ r.verdict.label]

/-- The texts of an entry that its author is free to choose: the label of the status, or the text of
the failure, which quotes conditions and paths. -/
def CheckReport.freeTexts (c : CheckReport) : List String :=
  match c.outcome with
  | .evaluated result => [result.status.label]
  | .failed failure => [failure]

/-- The texts of a report that its author is free to choose. -/
def GateReport.freeTexts (r : GateReport) : List String :=
  r.checks.flatMap CheckReport.freeTexts ++ r.concatenation.toList.map (·.condition)

/-- Whether a line looks like that of a verdict. -/
def startsVerdict (line : String) : Bool := "Verdict: ".toList.isPrefixOf line.toList

/-- Whether the line of a check looks like that of a verdict, because its label does. -/
def CheckReport.imitatesVerdict (c : CheckReport) : Bool :=
  match c.outcome with
  | .evaluated result => startsVerdict (result.status.label ++ " ")
  | .failed _ => false

namespace Report

variable {c : CheckReport} {r : GateReport} {lines : List String} {colours : Bool}

@[simp] theorem paint_false (signal : Option Signal) (text : String) :
    paint false signal text = text := rfl

theorem length_checkLines (colours : Bool) (c : CheckReport) :
    (checkLines colours c).length = c.lineCount := by
  obtain ⟨name, outcome⟩ := c
  cases outcome with
  | failed failure => rfl
  | evaluated result =>
      rw [checkLines, CheckReport.lineCount, List.length_cons, Nat.add_comm]
      dsimp only
      split
      · rfl
      · rw [List.length_map]

theorem length_of_isLaidOut (laidOut : r.IsLaidOut lines) : lines.length = r.lineCount := by
  obtain ⟨blocks, combined, each, length, rfl⟩ := laidOut
  have counts : blocks.map List.length = r.checks.map CheckReport.lineCount := by
    generalize r.checks = checks at each
    induction each with
    | nil => rfl
    | cons own _ ih => rw [List.map_cons, List.map_cons, own, ih]
  have blockLines : blocks.flatten.length = (r.checks.map CheckReport.lineCount).sum := by
    rw [List.length_flatten, counts]
  rw [List.length_append, List.length_append, List.length_append, blockLines, length,
    GateReport.lineCount]
  cases r.checks.isEmpty <;> rfl

theorem consoleLines_eq (colours : Bool) (r : GateReport) : consoleLines colours r =
    r.checks.flatMap (checkLines colours) ++ (if r.checks.isEmpty then [] else [""])
      ++ r.concatenation.toList.map (fun result => "Concatenation: " ++ result.condition)
      ++ ["Verdict: " ++ paint colours r.verdict.signal? r.verdict.label] := by
  rw [consoleLines]
  cases r.concatenation <;> rfl

/-- The lines that are written are those of the report. -/
theorem isLaidOut_consoleLines (r : GateReport) : r.IsLaidOut (consoleLines false r) := by
  refine ⟨r.checks.map (checkLines false),
    r.concatenation.toList.map fun result => "Concatenation: " ++ result.condition, ?_, ?_, ?_⟩
  · rw [List.forall₂_map_right_iff, List.forall₂_same]
    exact fun c _ => length_checkLines false c
  · rw [List.length_map]
  · rw [consoleLines_eq, List.flatMap_def]
    rfl

/-! ## Line feeds -/

theorem count_pad (label : String) : (pad label).toList.count '\n' = label.toList.count '\n' := by
  rw [pad, String.toList_ofList, List.count_append, List.count_replicate]
  rfl

/-- Packages are written as JSON, which has no control characters. -/
theorem printable_packageLine (p : ReasonPackage) : Json.Printable (packageLine p).toList := by
  have value (v : Json) : Json.Printable v.compact.toList := by
    rw [Json.compact, String.toList_ofList]
    exact Json.printable_compactText v
  have fixed : Json.Printable (List.replicate (labelWidth + 1) ' ' ++ "reasons: ".toList) := by
    simp [Json.Printable, labelWidth]
  have mark : Json.Printable ", context: ".toList := by simp [Json.Printable]
  rw [packageLine, String.toList_append, String.toList_append, String.toList_append,
    String.toList_ofList, Json.printable_append, Json.printable_append]
  refine ⟨⟨fixed, value _⟩, ?_⟩
  cases p.context with
  | none => exact List.forall_mem_nil _
  | some context =>
      rw [String.toList_append, Json.printable_append]
      exact ⟨mark, value context⟩

theorem breaksIn_packages (packages : List ReasonPackage) :
    breaksIn (packages.map packageLine) = 0 := by
  refine breaksIn_eq_zero_iff.mpr (List.forall_mem_map.mpr fun p _ member => ?_)
  exact absurd (printable_packageLine p _ member) (by decide)

theorem breaksIn_checkLines (named : '\n' ∉ c.name.toList) :
    breaksIn (checkLines false c) = breaksIn c.freeTexts := by
  obtain ⟨name, outcome⟩ := c
  have unbroken : name.toList.count '\n' = 0 := List.count_eq_zero.mpr named
  cases outcome with
  | evaluated result =>
      have shown : breaksIn (if result.holds then [] else result.packages.map packageLine) = 0 := by
        split
        · rfl
        · exact breaksIn_packages result.packages
      rw [checkLines, breaksIn_cons, shown]
      simp [unbroken, count_pad, CheckReport.freeTexts]
  | failed failure =>
      have label : (pad failureLabel).toList.count '\n' = 0 := rfl
      simp [checkLines, unbroken, label, CheckReport.freeTexts]

/-- If names and the verdict have no line feeds, only the free texts have some. -/
theorem breaksIn_consoleLines (named : ∀ c ∈ r.checks, '\n' ∉ c.name.toList)
    (verdict : '\n' ∉ r.verdict.label.toList) :
    breaksIn (consoleLines false r) = breaksIn r.freeTexts := by
  have checks : breaksIn (r.checks.flatMap (checkLines false)) =
      breaksIn (r.checks.flatMap CheckReport.freeTexts) := by
    generalize r.checks = checks at named
    induction checks with
    | nil => rfl
    | cons c checks ih =>
        obtain ⟨own, others⟩ := List.forall_mem_cons.mp named
        rw [List.flatMap_cons, List.flatMap_cons, breaksIn_append, breaksIn_append, ih others,
          breaksIn_checkLines own]
  have combined :
      breaksIn (r.concatenation.toList.map fun result => "Concatenation: " ++ result.condition) =
        breaksIn (r.concatenation.toList.map (·.condition)) := by
    cases r.concatenation <;> simp
  have last : breaksIn ["Verdict: " ++ paint false r.verdict.signal? r.verdict.label] = 0 := by
    rw [breaksIn_eq_zero_iff, List.forall_mem_singleton]
    simp [verdict]
  have empty : breaksIn (if r.checks.isEmpty then [] else [""]) = 0 := by
    split <;> rfl
  rw [consoleLines_eq, breaksIn_append, breaksIn_append, breaksIn_append, checks, combined, last,
    empty, GateReport.freeTexts, breaksIn_append]
  omega

/-! ## The verdict -/

/-- The line of a check looks like the verdict if its label does with a blank behind it: shorter
labels have a blank where that of the verdict has its colon. -/
theorem startsVerdict_label (label behind : String) :
    startsVerdict (pad label ++ " " ++ behind) = startsVerdict (label ++ " ") := by
  have padded : (pad label).toList =
      label.toList ++ List.replicate (labelWidth - label.toList.length) ' ' := by
    rw [pad, String.toList_ofList, String.length_toList]
  rw [Bool.eq_iff_iff, startsVerdict, startsVerdict, List.isPrefixOf_iff_prefix,
    List.isPrefixOf_iff_prefix, String.toList_append, String.toList_append, String.toList_append,
    padded]
  generalize label.toList = cs
  by_cases short : cs.length ≤ labelWidth
  -- The eighth character is the blank behind the label, and that of the verdict is a colon.
  · refine iff_of_false ?_ ?_
    · rintro ⟨rest, same⟩
      have width : (cs ++ List.replicate (labelWidth - cs.length) ' ').length = 7 := by
        rw [List.length_append, List.length_replicate]
        exact Nat.add_sub_of_le short
      have colon := congrArg (·[7]?) same
      rw [List.append_assoc (cs ++ _)] at colon
      simp only [List.getElem?_append_right width.le, width] at colon
      cases colon
    · intro starts
      have length : "Verdict: ".toList.length ≤ (cs ++ " ".toList).length := starts.length_le
      rw [List.length_append] at length
      exact absurd (length.trans (Nat.add_le_add_right short 1)) (by decide)
  · have wide : labelWidth - cs.length = 0 := by omega
    rw [wide, List.replicate_zero, List.append_nil]
    refine ⟨fun starts => ?_, fun starts => starts.trans (List.prefix_append _ _)⟩
    refine List.prefix_of_prefix_length_le starts (List.prefix_append _ _) ?_
    rw [List.length_append]
    exact Nat.add_le_add_right (Nat.lt_of_not_le short) 1

theorem startsVerdict_packageLine (p : ReasonPackage) : startsVerdict (packageLine p) = false := by
  rw [startsVerdict, packageLine, String.toList_append, String.toList_append, String.toList_append,
    String.toList_ofList]
  rfl

theorem countP_checkLines (c : CheckReport) :
    (checkLines false c).countP startsVerdict = if c.imitatesVerdict then 1 else 0 := by
  obtain ⟨name, outcome⟩ := c
  cases outcome with
  | evaluated result =>
      have shown : (if result.holds then [] else result.packages.map packageLine).countP
          startsVerdict = 0 := by
        split
        · rfl
        · rw [List.countP_eq_zero]
          exact List.forall_mem_map.mpr fun p _ => by simp [startsVerdict_packageLine]
      rw [checkLines, List.countP_cons, shown, paint_false, startsVerdict_label,
        CheckReport.imitatesVerdict, Nat.zero_add]
  | failed failure =>
      have other : startsVerdict (pad failureLabel ++ " " ++ name ++ ": " ++ failure) = false := by
        rw [startsVerdict, String.toList_append, String.toList_append, String.toList_append,
          String.toList_append]
        rfl
      rw [checkLines, paint_false, List.countP_singleton, other]
      rfl

/-- One line looks like the verdict for each check with such a label, and one is the verdict. -/
theorem countP_startsVerdict (r : GateReport) :
    (consoleLines false r).countP startsVerdict =
      r.checks.countP CheckReport.imitatesVerdict + 1 := by
  have checks : (r.checks.flatMap (checkLines false)).countP startsVerdict =
      r.checks.countP CheckReport.imitatesVerdict := by
    induction r.checks with
    | nil => rfl
    | cons c checks ih =>
        rw [List.flatMap_cons, List.countP_append, ih, countP_checkLines, List.countP_cons,
          Nat.add_comm]
  have empty : (if r.checks.isEmpty then [] else [""]).countP startsVerdict = 0 := by
    split <;> rfl
  have combined : (r.concatenation.toList.map fun result =>
      "Concatenation: " ++ result.condition).countP startsVerdict = 0 := by
    rw [List.countP_eq_zero]
    refine List.forall_mem_map.mpr fun result _ => ?_
    rw [startsVerdict, String.toList_append]
    exact Bool.false_ne_true
  have last : ["Verdict: " ++ r.verdict.label].countP startsVerdict = 1 := by
    rw [List.countP_singleton, startsVerdict, String.toList_append]
    rfl
  rw [consoleLines_eq, List.countP_append, List.countP_append, List.countP_append, checks, empty,
    combined, paint_false, last]

/-! ## Reports of gates -/

/-- Names have no other characters than those of names. -/
theorem notMem_of_hasNameForm {name : String} {c : Char} (form : Configuration.HasNameForm name)
    (other : ¬ Configuration.ContinuesName c) : c ∉ name.toList := by
  obtain ⟨first, rest, chars, starts, continues⟩ := form
  rw [chars]
  rintro (_ | ⟨_, member⟩)
  · exact other (.inl starts)
  · exact other (continues c member)

section Gates

variable {config : Configuration} {document : Json} {report : GateReport}

/-- The names in the reports of a valid configuration are names. -/
theorem hasNameForm_of_evaluate [Readers] (valid : config.validate = .ok ())
    (evaluated : config.gate.evaluate document = .ok report) :
    ∀ c ∈ report.checks, Configuration.HasNameForm c.name := by
  obtain ⟨-, reported⟩ := Gate.evaluate_eq_ok_iff.mp evaluated
  rw [(Gate.reportOf_eq_ok_iff.mp reported).1]
  refine List.forall_mem_map.mpr fun check member => Configuration.isName_iff.mp ?_
  exact (Configuration.names_of_validate valid).1 check member

/-- The label of the verdict of a gate has no line feeds. -/
theorem notMem_verdict [Readers] (evaluated : config.gate.evaluate document = .ok report) :
    '\n' ∉ report.verdict.label.toList := by
  obtain ⟨s, verdict⟩ := Gate.exists_signal_of_reportOf (Gate.evaluate_eq_ok_iff.mp evaluated).2
  rw [verdict]
  cases s <;> decide

/-- The line feeds in the lines of a report are those of its free texts. -/
theorem breaksIn_of_evaluate [Readers] (valid : config.validate = .ok ())
    (evaluated : config.gate.evaluate document = .ok report) :
    breaksIn (consoleLines false report) = breaksIn report.freeTexts := by
  refine breaksIn_consoleLines (fun c member => ?_) (notMem_verdict evaluated)
  exact notMem_of_hasNameForm (hasNameForm_of_evaluate valid evaluated c member)
    (by simp [Configuration.ContinuesName, Configuration.StartsName])

/-- **A console report keeps its lines exactly if its free texts have no line feeds and none of its
labels looks like the verdict.** The text of a report of a valid configuration has a line for each
check, lines for the packages under it, an empty line, a line for the concatenation and the verdict,
and besides a line for each line feed in the labels of its statuses, the texts of its failures and
its concatenation. If there are none, another line looks like the verdict exactly if the label of a
check does. -/
theorem isLaidOut_iff [Readers] (valid : config.validate = .ok ())
    (evaluated : config.gate.evaluate document = .ok report) :
    (linesOf (console false report)).length = report.lineCount + breaksIn report.freeTexts ∧
    (report.IsLaidOut (linesOf (console false report)) ↔
      ∀ text ∈ report.freeTexts, '\n' ∉ text.toList) ∧
    ((∀ text ∈ report.freeTexts, '\n' ∉ text.toList) →
      linesOf (console false report) = consoleLines false report) ∧
    (report.IsLaidOut (linesOf (console false report)) ∧
        (linesOf (console false report)).countP startsVerdict = 1 ↔
      (∀ text ∈ report.freeTexts, '\n' ∉ text.toList) ∧
        ∀ c ∈ report.checks, c.imitatesVerdict = false) := by
  simp only [← breaksIn_eq_zero_iff]
  have breaks := breaksIn_of_evaluate valid evaluated
  have length : (linesOf (console false report)).length =
      report.lineCount + breaksIn report.freeTexts := by
    rw [console, length_linesOf_join, breaks, length_of_isLaidOut (isLaidOut_consoleLines report)]
  have lines (unbroken : breaksIn report.freeTexts = 0) :
      linesOf (console false report) = consoleLines false report :=
    linesOf_join_of_breaksIn (breaks.trans unbroken)
  have laidOut : report.IsLaidOut (linesOf (console false report)) ↔
      breaksIn report.freeTexts = 0 := by
    constructor
    · intro laidOut
      have structured := length_of_isLaidOut laidOut
      omega
    · intro unbroken
      rw [lines unbroken]
      exact isLaidOut_consoleLines report
  refine ⟨length, laidOut, lines, ?_⟩
  rw [laidOut]
  refine and_congr_right fun unbroken => ?_
  rw [lines unbroken, countP_startsVerdict, Nat.add_eq_right, List.countP_eq_zero]
  simp

/-- What is reported of an empty list, by a check whose author chose a label for that. -/
theorem evaluate_of_empty [Readers] (label : String) (other : Signal.ofLabel? label = none) :
    (Configuration.gate ⟨false, 1, .abort, none, [⟨"a", ⟨"$", "$ == 1", { CheckOptions.none with
      onEmpty := some ⟨label⟩ }⟩⟩]⟩).evaluate (.array []) =
      .ok ⟨[⟨"a", .evaluated ⟨"$", "$ == 1", ⟨label⟩, false, []⟩⟩], none, .green⟩ := by
  set check : NamedCheck :=
    ⟨"a", ⟨"$", "$ == 1", { CheckOptions.none with onEmpty := some ⟨label⟩ }⟩⟩
  set g := Configuration.gate ⟨false, 1, .abort, none, [check]⟩
  have checked : g.resultOf (.array []) check = .ok ⟨"$", "$ == 1", ⟨label⟩, false, []⟩ :=
    Evaluator.check_of_settled (Path.select_root _) rfl
  have entries : g.entries (.array []) =
      [⟨"a", .evaluated ⟨"$", "$ == 1", ⟨label⟩, false, []⟩⟩] := by
    change [check.entry (g.resultOf (.array []) check)] = _
    rw [checked]
    rfl
  have unsignalled : CheckReport.signal? ⟨"a", .evaluated ⟨"$", "$ == 1", ⟨label⟩, false, []⟩⟩ =
      none := other
  have worst : Gate.worstStatus (g.entries (.array [])) = .green := by
    rw [entries, Gate.worstStatus, List.filterMap_cons_none unsignalled]
    rfl
  refine (Gate.evaluate_of_none rfl).mpr ⟨fun _ => ?_, ?_⟩
  · exact List.forall_mem_singleton.mpr ⟨_, checked⟩
  · rw [worst, entries]

/-- A check with a package and its context, one with a label of its own and a package only, one that
cannot be judged, one that holds, and a concatenation: every kind of line is there, and a line feed
in the document breaks none of them. -/
theorem isLaidOut_iff_every_kind :
    let document : Json := .array [.string "a\nb"]
    let config : Configuration := ⟨false, 1, .report, some "text || other", [
      ⟨"text", ⟨"$", "$ == 2", { CheckOptions.none with log := some "$" }⟩⟩,
      ⟨"small", ⟨"$", "all(ref[0], 'size($) < 3')",
        { CheckOptions.none with onFalse := some ⟨"LONG"⟩ }⟩⟩,
      ⟨"sum", ⟨"$", "all(ref[0] + 1, '$ == 2')", .none⟩⟩,
      ⟨"other", ⟨"$", "none(ref[0], '$ == 2')", .none⟩⟩]⟩
    let lines := [
      "RED     text", "        reasons: [[\"a\\nb\"]], context: [\"a\\nb\"]",
      "LONG    small", "        reasons: [\"a\\nb\"]",
      "ERROR   sum: could not evaluate expression 'all(ref[0] + 1, '$ == 2')': " ++
        "Unsupported binary operator 'add': List([String(\"a\\nb\")]), Int(1)",
      "GREEN   other", "", "Concatenation: text || other", "Verdict: GREEN"]
    config.validate = .ok () ∧ ∃ report, config.gate.evaluate document = .ok report ∧
      report.IsLaidOut (linesOf (console false report)) ∧
      (linesOf (console false report)).countP startsVerdict = 1 ∧
      linesOf (console false report) = lines := by
  intro document config lines
  have valid : config.validate = .ok () := by decide +kernel
  have judged : config.gate.evaluator.judge document "$ == 2" = .ok ⟨false, [document]⟩ :=
    Evaluator.judge_of_root rfl rfl (by decide +kernel)
  have plain : Quantifier.isQuantified "$ == 2" = false := by decide +kernel
  have text := Evaluator.check_of_plain (o := { CheckOptions.none with log := some "$" }) rfl plain
    judged
  rw [Evaluator.trimAll_singleton rfl (Path.selectFirst_root document)] at text
  have printed : (config.gate.evaluate document).toOption.map (fun report =>
      (report.freeTexts.all (fun text => '\n' ∉ text.toList),
        report.checks.all (!·.imitatesVerdict), consoleLines false report)) =
      some (true, true, lines) := by
    rw [Gate.evaluate]
    simp only [config, Configuration.gate, List.map_cons, List.map_nil] at text ⊢
    rw [text]
    simp only [Evaluator.check, Path.select_root]
    decide +kernel
  obtain ⟨report, evaluated, shape⟩ := exists_ok_of_map_toOption printed
  obtain ⟨unbroken, plain, shown⟩ : (∀ text ∈ report.freeTexts, '\n' ∉ text.toList) ∧
      (∀ c ∈ report.checks, c.imitatesVerdict = false) ∧ consoleLines false report = lines := by
    simpa using shape
  obtain ⟨-, -, kept, keeps⟩ := isLaidOut_iff valid evaluated
  obtain ⟨laidOut, once⟩ := keeps.mpr ⟨unbroken, plain⟩
  exact ⟨valid, report, evaluated, laidOut, once, (kept unbroken).trans shown⟩

/-- A label with a line feed makes two lines, the second of which may look like the verdict; and a
label may look like the verdict by itself. -/
theorem not_isLaidOut_of_break :
    let config (label : String) : Configuration := ⟨false, 1, .abort, none, [⟨"a", ⟨"$", "$ == 1",
      { CheckOptions.none with onEmpty := some ⟨label⟩ }⟩⟩]⟩
    ((config "LOW\nVerdict: GREEN").validate = .ok () ∧
      ∃ report, (config "LOW\nVerdict: GREEN").gate.evaluate (.array []) = .ok report ∧
        linesOf (console false report) = ["LOW", "Verdict: GREEN a", "", "Verdict: GREEN"] ∧
        report.lineCount = 3 ∧ ¬ report.IsLaidOut (linesOf (console false report))) ∧
    (config "Verdict:").validate = .ok () ∧
      ∃ report, (config "Verdict:").gate.evaluate (.array []) = .ok report ∧
        linesOf (console false report) = ["Verdict: a", "", "Verdict: GREEN"] ∧
        (linesOf (console false report)).countP startsVerdict = 2 := by
  intro config
  refine ⟨⟨by decide +kernel, _, evaluate_of_empty _ rfl, by decide +kernel, rfl, ?_⟩,
    by decide +kernel, _, evaluate_of_empty _ rfl, by decide +kernel, by decide +kernel⟩
  intro laidOut
  exact absurd (length_of_isLaidOut laidOut) (by decide +kernel)

end Gates

end Report

end QualityGate
