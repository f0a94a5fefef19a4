import Mathlib.Computability.Primrec.List
import Mathlib.Data.List.Forall2
import Mathlib.Data.List.Permutation
import QualityGate.Configuration.Basic
import QualityGate.Proofs.Json.Carried
import QualityGate.Proofs.Time.Timeout

/-!
# Configurations written and read

A configuration is read back from its JSON form, and from whatever a format makes of that which
keeps strings, truth values, lists and tables (`ofJson?_of_carries`). All it takes is that the
timeout can be held, and every timeout that is read can. So configurations can be carried from text
to text without change (`ofJson?_toJson`).
-/

namespace QualityGate

open Json

/-! ## Options -/

namespace CheckOptions

variable {o : CheckOptions} {v : Json}

theorem readStatus?_of_carries {s : Status} {w : Json} (carried : Carries (statusJson s) w) :
    readStatus? w = some s := by
  rw [readStatus?, text?_of_carries carried]
  rfl

/-- Options are written with names of fields, and strings as values. -/
theorem exists_members (o : CheckOptions) : ∃ members, o.toJson = .object members ∧
    ∀ m ∈ members, m.1 ∈ ["log", "true", "false", "return_if_empty", "return_if_not_found"] ∧
      ∃ s, m.2 = .string s := by
  have status {name : String} {own : Option Status} {m : String × Json}
      (member : m ∈ optionalMember name (own.map statusJson)) :
      m.1 = name ∧ ∃ s, m.2 = .string s := by
    obtain ⟨name, s, -, value⟩ := of_mem_optionalMember member
    exact ⟨name, s.label, value⟩
  refine ⟨_, rfl, fun m member => ?_⟩
  simp only [List.mem_append] at member
  rcases member with (((log | onTrue) | onFalse) | onEmpty) | onNotFound
  · obtain ⟨name, s, -, value⟩ := of_mem_optionalMember log
    exact ⟨by simp [name], s, value⟩
  · exact ⟨by simp [(status onTrue).1], (status onTrue).2⟩
  · exact ⟨by simp [(status onFalse).1], (status onFalse).2⟩
  · exact ⟨by simp [(status onEmpty).1], (status onEmpty).2⟩
  · exact ⟨by simp [(status onNotFound).1], (status onNotFound).2⟩

theorem carries_toJson (o : CheckOptions) : Carries o.toJson o.toJson := by
  obtain ⟨members, form, fields⟩ := o.exists_members
  rw [form]
  refine Carries.object_self fun m member => ?_
  obtain ⟨-, s, value⟩ := fields m member
  rw [value]
  exact .string s

/-- Options are read from what a format makes of them. -/
theorem ofJson?_of_carries (carried : Carries o.toJson v) : ofJson? v = some o := by
  obtain ⟨members, form, known⟩ := o.exists_members
  rw [form] at carried
  obtain ⟨others, among, fields⟩ :=
    exists_membersAmong?_of_carries _ carried fun m member => (known m member).1
  cases form
  have log : optional? "log" text? others = some o.log := by
    refine optional?_of_carries (fields "log") ?_ fun _ _ => text?_of_carries
    simp [List.lookup_append, lookup_optionalMember]
  have onTrue : optional? "true" readStatus? others = some o.onTrue := by
    refine optional?_of_carries (fields "true") ?_ fun _ _ => readStatus?_of_carries
    simp [List.lookup_append, lookup_optionalMember]
  have onFalse : optional? "false" readStatus? others = some o.onFalse := by
    refine optional?_of_carries (fields "false") ?_ fun _ _ => readStatus?_of_carries
    simp [List.lookup_append, lookup_optionalMember]
  have onEmpty : optional? "return_if_empty" readStatus? others = some o.onEmpty := by
    refine optional?_of_carries (fields "return_if_empty") ?_ fun _ _ => readStatus?_of_carries
    simp [List.lookup_append, lookup_optionalMember]
  have onNotFound : optional? "return_if_not_found" readStatus? others = some o.onNotFound := by
    refine optional?_of_carries (fields "return_if_not_found") ?_
      fun _ _ => readStatus?_of_carries
    simp [List.lookup_append, lookup_optionalMember]
  rw [ofJson?, among]
  simp only [Option.bind_eq_bind, Option.bind_some, log, onTrue, onFalse, onEmpty, onNotFound]
  rfl

end CheckOptions

/-! ## Checks -/

namespace NamedCheck

variable {c : NamedCheck} {v : Json}

theorem carries_toJson (c : NamedCheck) : Carries c.toJson c.toJson := by
  refine Carries.object_self ?_
  simp only [List.forall_mem_cons]
  exact ⟨.string _, .string _, .string _, c.definition.options.carries_toJson, nofun⟩

/-- A check is read from what a format makes of it. -/
theorem ofJson?_of_carries (carried : Carries c.toJson v) : ofJson? v = some c := by
  obtain ⟨others, among, fields⟩ :=
    exists_membersAmong?_of_carries ["name", "reference", "condition", "options"] carried (by simp)
  have name : field? "name" text? others = some c.name :=
    field?_of_carries (fields "name") rfl fun _ => text?_of_carries
  have reference : field? "reference" text? others = some c.definition.reference :=
    field?_of_carries (fields "reference") rfl fun _ => text?_of_carries
  have condition : field? "condition" text? others = some c.definition.condition :=
    field?_of_carries (fields "condition") rfl fun _ => text?_of_carries
  have options : fieldOr? "options" .none CheckOptions.ofJson? others =
      some c.definition.options :=
    fieldOr?_of_carries (fields "options") rfl fun _ => CheckOptions.ofJson?_of_carries
  rw [ofJson?, among]
  simp only [Option.bind_eq_bind, Option.bind_some, name, reference, condition, options]
  rfl

end NamedCheck

/-! ## Configurations -/

theorem FailurePolicy.ofName?_name (policy : FailurePolicy) :
    ofName? policy.name = some policy := by
  cases policy <;> decide

namespace Configuration

variable {c : Configuration} {v : Json}

theorem checksOfJson?_of_carries {checks : List NamedCheck} {items : List Json}
    (carried : List.Forall₂ Carries (checks.map NamedCheck.toJson) items) :
    checksOfJson? items = some checks := by
  induction checks generalizing items with
  | nil =>
      cases carried
      rfl
  | cons check checks ih =>
      cases carried with
      | cons own others =>
          rw [checksOfJson?, NamedCheck.ofJson?_of_carries own, ih others]
          rfl

theorem carries_toJson (c : Configuration) : Carries c.toJson c.toJson := by
  refine Carries.object_self ?_
  have checks : List.Forall₂ Carries (c.checks.map NamedCheck.toJson)
      (c.checks.map NamedCheck.toJson) := by
    refine List.forall₂_same.mpr fun v member => ?_
    obtain ⟨check, -, rfl⟩ := List.mem_map.mp member
    exact check.carries_toJson
  have concatenation (m : String × Json)
      (member : m ∈ optionalMember "concatenation" (c.concatenation.map Json.string)) :
      Carries m.2 m.2 := by
    obtain ⟨-, text, -, value⟩ := of_mem_optionalMember member
    rw [value]
    exact .string text
  simp only [List.forall_mem_append, List.forall_mem_cons]
  exact ⟨⟨⟨.bool _, .string _, .string _, nofun⟩, concatenation⟩, .array checks, nofun⟩

/-- A configuration is read from what a format makes of it. -/
theorem ofJson?_of_carries (held : c.timeout < Time.Timeout.limit) (carried : Carries c.toJson v) :
    ofJson? v = some c := by
  have known (m : String × Json)
      (member : m ∈ optionalMember "concatenation" (c.concatenation.map Json.string)) :
      m.1 ∈ ["continue_search_on_fail", "timeout", "on_error", "concatenation", "checks"] := by
    simp [(of_mem_optionalMember member).1]
  obtain ⟨others, among, fields⟩ := exists_membersAmong?_of_carries
    ["continue_search_on_fail", "timeout", "on_error", "concatenation", "checks"]
    carried (by simpa [or_imp, forall_and] using known)
  have exhaustive : fieldOr? "continue_search_on_fail" false bool? others = some c.exhaustive :=
    fieldOr?_of_carries (fields "continue_search_on_fail") rfl fun _ => bool?_of_carries
  have timeout : fieldOr? "timeout" defaultTimeout
      (fun v => v.text?.bind Time.Timeout.parse?) others = some c.timeout := by
    refine fieldOr?_of_carries (fields "timeout") rfl fun w carried => ?_
    rw [text?_of_carries carried]
    exact Time.Timeout.parse?_render held
  have policy : fieldOr? "on_error" .abort (fun v => v.text?.bind FailurePolicy.ofName?) others =
      some c.policy := by
    refine fieldOr?_of_carries (fields "on_error") rfl fun w carried => ?_
    rw [text?_of_carries carried]
    exact c.policy.ofName?_name
  have concatenation : optional? "concatenation" text? others = some c.concatenation := by
    refine optional?_of_carries (fields "concatenation") ?_ fun _ _ => text?_of_carries
    simp [List.lookup_append, List.lookup_cons, lookup_optionalMember]
  have checks : fieldOr? "checks" [] (fun v => v.items?.bind checksOfJson?) others =
      some c.checks := by
    refine fieldOr?_of_carries (v := .array (c.checks.map NamedCheck.toJson)) (fields "checks") ?_ ?_
    · simp [List.lookup_append, List.lookup_cons, lookup_optionalMember]
    · rintro _ (_ | _ | carried)
      exact checksOfJson?_of_carries carried
  rw [ofJson?, among]
  simp only [Option.bind_eq_bind, Option.bind_some, exhaustive, timeout, policy, concatenation,
    checks]
  rfl

/-- The timeout of a configuration that is read can be held. -/
theorem timeout_lt_of_ofJson? (read : ofJson? v = some c) : c.timeout < Time.Timeout.limit := by
  simp only [ofJson?, Option.bind_eq_bind, Option.bind_eq_some_iff] at read
  obtain ⟨members, -, exhaustive, -, timeout, named, policy, -, concatenation, -, checks, -, is⟩ :=
    read
  cases is
  rw [fieldOr?] at named
  split at named
  case h_1 =>
      obtain ⟨text, -, parsed⟩ := Option.bind_eq_some_iff.mp named
      exact Time.Timeout.lt_of_parse? parsed
  case h_2 =>
      cases named
      exact (by decide : defaultTimeout < Time.Timeout.limit)

/-- **Configurations survive being written and read.** Every configuration whose timeout can be held
is read back from its JSON form, and from whatever a format makes of that form if it keeps strings,
truth values, lists and tables. Every configuration that is parsed from a text is of this kind:
parsed again from any text that carries its JSON form, it is the same one. -/
theorem ofJson?_toJson :
    (∀ c : Configuration, c.timeout < Time.Timeout.limit →
      ofJson? c.toJson = some c ∧ ∀ v, Carries c.toJson v → ofJson? v = some c) ∧
    ∀ text c, parse? text = some c →
      ofJson? c.toJson = some c ∧
      ∀ again v, Toml.parse? again = some v → Carries c.toJson v → parse? again = some c := by
  refine ⟨fun c held => ?_, fun text c parsed => ?_⟩
  · exact ⟨ofJson?_of_carries held c.carries_toJson, fun v => ofJson?_of_carries held⟩
  · obtain ⟨v, -, read⟩ := Option.bind_eq_some_iff.mp parsed
    have held := timeout_lt_of_ofJson? read
    refine ⟨ofJson?_of_carries held c.carries_toJson, fun again v toml carried => ?_⟩
    exact Option.bind_eq_some_iff.mpr ⟨v, toml, ofJson?_of_carries held carried⟩

/-- A timeout of three years and a nanosecond is kept, and so are options among which one is left
out, also by a text that has the fields in another order. -/
theorem ofJson?_toJson_years :
    let text := "on_error = 'report'\ntimeout = '1ns 2years 8766 hours'\n[[checks]]\n" ++
      "reference = '$.a'\ncondition = '$ == 1'\nname = 'a'\noptions.false = 'YELLOW'\n"
    let again := "continue_search_on_fail = false\ntimeout = \"3years 1ns\"\n" ++
      "on_error = \"report\"\n\n[[checks]]\nname = \"a\"\nreference = \"$.a\"\n" ++
      "condition = \"$ == 1\"\n\n[checks.options]\nfalse = \"YELLOW\"\n"
    let options : CheckOptions := { CheckOptions.none with onFalse := some .yellow }
    let c : Configuration := ⟨false, 3 * 31_557_600_000_000_000 + 1, .report, none,
      [⟨"a", ⟨"$.a", "$ == 1", options⟩⟩]⟩
    ofJson? c.toJson = some c ∧ parse? text = some c ∧ parse? again = some c := by
  intro text again options c
  have parsed : parse? text = some c := by decide +kernel
  have held : c.timeout < Time.Timeout.limit := by decide
  let table : List (String × Json) := [
    ("checks", .array [.object [("condition", .string "$ == 1"), ("name", .string "a"),
      ("options", .object [("false", .string "YELLOW")]), ("reference", .string "$.a")]]),
    ("continue_search_on_fail", .bool false), ("on_error", .string "report"),
    ("timeout", .string "3years 1ns")]
  have read : Toml.parse? again = some (.object table) := by
    simp only [again, table]
    -- The equations by which lookups are evaluated come with two of the imported modules.
    cbv
  have carried : Carries c.toJson (.object table) := by
    have check : Carries (NamedCheck.toJson ⟨"a", ⟨"$.a", "$ == 1", options⟩⟩) (.object
        [("condition", .string "$ == 1"), ("name", .string "a"),
          ("options", .object [("false", .string "YELLOW")]), ("reference", .string "$.a")]) := by
      refine Carries.object_of_members ?_ (by decide)
      simp only [List.forall_mem_cons]
      exact ⟨⟨_, rfl, .string _⟩, ⟨_, rfl, .string _⟩, ⟨_, rfl, .string _⟩,
        ⟨_, rfl, options.carries_toJson⟩, List.forall_mem_nil _⟩
    have timeout : Time.Timeout.render c.timeout = "3years 1ns" := by decide +kernel
    refine Carries.object_of_members ?_ (by decide)
    rw [timeout]
    simp only [List.forall_mem_append, List.forall_mem_cons]
    exact ⟨⟨⟨⟨_, rfl, .bool _⟩, ⟨_, rfl, .string _⟩, ⟨_, rfl, .string _⟩, List.forall_mem_nil _⟩,
      List.forall_mem_nil _⟩, ⟨_, rfl, .array (.cons check .nil)⟩, List.forall_mem_nil _⟩
  obtain ⟨written, parsedAgain⟩ := ofJson?_toJson.2 text c parsed
  exact ⟨(ofJson?_toJson.1 c held).1, parsed, parsedAgain again _ read carried⟩

end Configuration

end QualityGate
