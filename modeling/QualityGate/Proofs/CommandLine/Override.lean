import QualityGate.Proofs.CommandLine.Execution

/-!
# Flags in the place of configured fields

Four flags of an evaluation take the place of fields of its configuration, each whether or not the
others are given (`Evaluate.Replaces`). It makes no difference whether such a flag is given or the
field has its value in the file (`run_evaluate_overridden`): what is configured in the place of a
flag is not seen in any step after the flags are applied.
-/

namespace QualityGate.CommandLine

/-! ## Flags and fields -/

/-- Whether a field is as a flag says, or as before if the flag is not given. -/
structure Replaced {α : Type} (flag : Option α) (before after : α) : Prop where
  given : ∀ value, flag = some value → after = value
  absent : flag = none → after = before

theorem replaced_iff {α : Type} {flag : Option α} {before after : α} :
    Replaced flag before after ↔ after = flag.getD before := by
  cases flag with
  | none => exact ⟨fun replaced => replaced.absent rfl, fun same => ⟨nofun, fun _ => same⟩⟩
  | some value =>
      refine ⟨fun replaced => replaced.given value rfl, fun same => ⟨?_, nofun⟩⟩
      rintro _ ⟨⟩
      exact same

namespace Evaluate

/-- Whether the second configuration is the first one with the fields of flags replaced. The flag
that makes a search exhaustive has no opposite, and there is none that removes a concatenation. -/
structure Replaces (r : Evaluate) (c c' : Configuration) : Prop where
  concatenation : Replaced (r.concatenation.map some) c.concatenation c'.concatenation
  exhaustive : Replaced (if r.exhaustive then some true else none) c.exhaustive c'.exhaustive
  timeout : Replaced r.timeout c.timeout c'.timeout
  policy : Replaced r.policy c.policy c'.policy
  checks : c'.checks = c.checks

/-- The evaluation without these flags, under the configuration of another file. -/
def withoutFlags (r : Evaluate) (config : String) : Evaluate :=
  { r with config, concatenation := none, exhaustive := false, timeout := none, policy := none }

section Override

variable {r : Evaluate} {c c' : Configuration} {files other : Files} {path : String}

/-- The fields of flags are replaced in one way. -/
theorem replaces_iff : r.Replaces c c' ↔ c' = r.override c := by
  have concatenation : (r.concatenation.map some).getD c.concatenation =
      (r.override c).concatenation := by
    rw [override]
    cases r.concatenation <;> rfl
  have exhaustive : (if r.exhaustive then some true else none).getD c.exhaustive =
      (r.override c).exhaustive := by
    rw [override]
    cases r.exhaustive with
    | true => exact (Bool.or_true c.exhaustive).symm
    | false => exact (Bool.or_false c.exhaustive).symm
  constructor
  · intro replaces
    have concatenation := (replaced_iff.mp replaces.concatenation).trans concatenation
    have exhaustive := (replaced_iff.mp replaces.exhaustive).trans exhaustive
    have timeout := replaced_iff.mp replaces.timeout
    have policy := replaced_iff.mp replaces.policy
    have checks := replaces.checks
    cases c'
    simp only at concatenation exhaustive timeout policy checks
    rw [concatenation, exhaustive, timeout, policy, checks]
    rfl
  · rintro rfl
    exact ⟨replaced_iff.mpr concatenation.symm, replaced_iff.mpr exhaustive.symm,
      replaced_iff.mpr rfl, replaced_iff.mpr rfl, rfl⟩

/-- Without these flags a configuration is as it was loaded. -/
theorem override_withoutFlags : (r.withoutFlags path).override c = c := by
  cases c
  simp [override, withoutFlags]

/-- The configuration of an evaluation is the loaded one with the fields of flags replaced, if that
is valid as well. -/
theorem configuration_of_loaded [Readers] (loaded : loadConfiguration files r.config = .ok c) :
    r.configuration files = (r.override c).validate.map fun _ => r.override c := by
  rw [configuration, loaded, ok_bind]
  cases (r.override c).validate <;> rfl

/-- What a valid configuration is loaded from does not matter. -/
theorem configuration_withoutFlags [Readers] (loaded : loadConfiguration files r.config = .ok c)
    (valid : (r.override c).validate = .ok ())
    (edited : loadConfiguration other path = .ok (r.override c)) :
    (r.withoutFlags path).configuration other = r.configuration files := by
  rw [configuration_of_loaded loaded, configuration_of_loaded (r := r.withoutFlags path) edited,
    override_withoutFlags, valid]

theorem loadDocument_withoutFlags (document : other.read? r.document = files.read? r.document) :
    (r.withoutFlags path).loadDocument other = r.loadDocument files := by
  have same : (r.withoutFlags path).document = r.document := rfl
  rw [loadDocument, loadDocument, same, document]

/-- The flags have no part in the delivery of a report. -/
theorem deliver_withoutFlags (writable : ∀ report, r.json = some report →
      other.isWritable report = files.isWritable report) (terminal : Bool) (report : GateReport) :
    (r.withoutFlags path).deliver other terminal report = r.deliver files terminal report := by
  have same : (r.withoutFlags path).json = r.json := rfl
  unfold deliver
  rw [same]
  cases json : r.json with
  | none => rfl
  | some report =>
      simp only [writable report json]
      rfl

/-- What an evaluation does depends on its configuration, its document, and on whether its report
can be written. -/
theorem run_congr [Readers] {s : Evaluate}
    (configured : s.configuration other = r.configuration files)
    (document : s.loadDocument other = r.loadDocument files)
    (delivered : ∀ terminal report,
      s.deliver other terminal report = r.deliver files terminal report) (terminal : Bool) :
    s.run other terminal = r.run files terminal := by
  simp only [run, report, configured, document, delivered]

/-- An evaluation whose flags make its configuration invalid fails with that problem. -/
theorem run_of_invalid [Readers] (loaded : loadConfiguration files r.config = .ok c)
    {problem : Problem} (invalid : (r.override c).validate = .error problem) (terminal : Bool) :
    r.run files terminal = .failure problem := by
  rw [run, report, configuration_of_loaded loaded, invalid]
  rfl

end Override

end Evaluate

/-- **Flags are as good as an edited file.** Take an evaluation whose configuration can be loaded,
and replace in that configuration the fields of the flags that are given, and no others. If the
result is valid, the evaluation does the same as one without these flags under any file that loads to
the result: it prints and writes the same, and it has the same problem, if any. If the result is
invalid, the evaluation does nothing but fail with the problem of validation, whatever the document
is and whether or not there is one. -/
theorem run_evaluate_overridden [Readers] (r : Evaluate) (files : Files) (c c' : Configuration)
    (loaded : loadConfiguration files r.config = .ok c) (replaces : r.Replaces c c') :
    (c'.validate = .ok () → ∀ (other : Files) (path : String),
      loadConfiguration other path = .ok c' →
      other.read? r.document = files.read? r.document →
      (∀ report, r.json = some report → other.isWritable report = files.isWritable report) →
      ∀ terminal, (Command.evaluate (r.withoutFlags path)).run other terminal =
        (Command.evaluate r).run files terminal) ∧
    ∀ problem, c'.validate = .error problem → ∀ other : Files,
      other.read? r.config = files.read? r.config →
      ∀ terminal, (Command.evaluate r).run other terminal = .failure problem := by
  obtain rfl := Evaluate.replaces_iff.mp replaces
  constructor
  · intro valid other path edited document writable
    exact Evaluate.run_congr (Evaluate.configuration_withoutFlags loaded valid edited)
      (Evaluate.loadDocument_withoutFlags document) (Evaluate.deliver_withoutFlags writable)
  · intro problem invalid other same
    have loaded : loadConfiguration other r.config = .ok c := by
      rw [loadConfiguration_eq_ok_iff] at loaded ⊢
      rwa [same]
    exact Evaluate.run_of_invalid loaded invalid

/-- A concatenation and a timeout on the command line are as good as those in an edited file, and an
unknown name in the concatenation is found without a document. -/
theorem run_evaluate_overridden_concatenation :
    let r (concatenation : String) : Evaluate := {
      config := "gate", document := "data", concatenation := some concatenation,
      exhaustive := false, timeout := some 2_000_000_000, policy := none, json := some "report",
      failOn := some .red, colours := .automatic }
    let file (settings : String) : String := settings ++ "on_error = \"report\"\n" ++
      "[[checks]]\nname = \"a\"\nreference = \"$.a\"\ncondition = \"$ == 1\"\n" ++
      "[[checks]]\nname = \"b\"\nreference = \"$.b\"\ncondition = \"$ == 1\"\n"
    let configured (settings : String) : Files :=
      ⟨fun path => [("gate", file settings), ("data", "\x7b\x7d")].lookup path, fun _ => true⟩
    let original := configured "concatenation = \"a && b\"\n"
    let edited := configured "concatenation = \"a || b\"\ntimeout = \"2s\"\n"
    (∀ terminal, (Command.evaluate ((r "a || b").withoutFlags "gate")).run edited terminal =
      (Command.evaluate (r "a || b")).run original terminal) ∧
    ∀ terminal, (Command.evaluate (r "a || c")).run { original with
        read? := fun path => if path = "data" then none else original.read? path } terminal =
      .failure ⟨"concatenation 'a || c' references unknown check 'c'", []⟩ := by
  intro r file configured original edited
  let check (name : String) : NamedCheck := ⟨name, ⟨"$." ++ name, "$ == 1", .none⟩⟩
  let c : Configuration := ⟨false, 5_000_000_000, .report, some "a && b", [check "a", check "b"]⟩
  let changed (concatenation : String) : Configuration :=
    { c with concatenation := some concatenation, timeout := 2_000_000_000 }
  have loaded : loadConfiguration original "gate" = .ok c := by decide +kernel
  have reloaded : loadConfiguration edited "gate" = .ok (changed "a || b") := by decide +kernel
  have replaces (concatenation : String) : (r concatenation).Replaces c (changed concatenation) :=
    Evaluate.replaces_iff.mpr rfl
  have valid : (changed "a || b").validate = .ok () := by decide +kernel
  have invalid : (changed "a || c").validate =
      .error ⟨"concatenation 'a || c' references unknown check 'c'", []⟩ := by decide +kernel
  have document : edited.read? "data" = original.read? "data" := by decide +kernel
  obtain ⟨same, -⟩ := run_evaluate_overridden (r "a || b") original c _ loaded (replaces "a || b")
  obtain ⟨-, fails⟩ := run_evaluate_overridden (r "a || c") original c _ loaded (replaces "a || c")
  exact ⟨same valid edited "gate" reloaded document fun _ _ => rfl, fails _ invalid _ rfl⟩

end QualityGate.CommandLine
