import Mathlib.Data.List.Induction
import Mathlib.Data.List.Nodup
import QualityGate.Proofs.Condition.Occurrence
import QualityGate.Proofs.Condition.Scan

/-!
# Places of tokens

A scan goes through a condition in rounds: to the next mark, and on behind what may be a token there
(`Scans`). It ends on every text, with no more rounds than there are marks, and what it finds are
the occurrences (`scans_iff`). As it never goes back, these stand one behind the other.

So the places of a token cut a condition into the token and the texts around it, and a substitution
keeps these texts and puts a name between them (`Reference.Splices`). `scan_splices` says this of
every condition, and what a scan names if there are several tokens.
-/

namespace QualityGate.Condition

open Text (byteLength slice?)

/-! ## Rounds of a scan -/

/-- The occurrence at a mark with an offset, before a text, if the mark starts a token. -/
def occurrenceAt? (offset : Nat) (rest : List Char) : Option Occurrence :=
  (classify? ('$' :: (splitToken rest).1) (splitToken rest).2).map fun (path, membership) =>
    ⟨path, membership, ⟨offset, offset + byteLength path⟩⟩

/-- A scan of a text from an offset on, with the number of its rounds and what it finds. -/
inductive Scans : Nat → Nat → List Char → List Occurrence → Prop
  | done {offset : Nat} {cs : List Char} : '$' ∉ cs → Scans 0 offset cs []
  | round {rounds offset : Nat} {before rest : List Char} {os : List Occurrence} :
    '$' ∉ before →
    Scans rounds (offset + byteLength (before ++ '$' :: (splitToken rest).1)) (splitToken rest).2
      os →
    Scans (rounds + 1) offset (before ++ '$' :: rest)
      ((occurrenceAt? (offset + byteLength before) rest).toList ++ os)

section Rounds

variable {rounds offset : Nat} {cs before rest : List Char} {os : List Occurrence}

theorem occurrencesFrom_of_unmarked (unmarked : '$' ∉ cs) :
    occurrencesFrom cs.length offset cs = [] := by
  have skipped : occurrencesFrom cs.length offset (cs ++ []) =
      occurrencesFrom cs.length (offset + byteLength cs) [] :=
    occurrencesFrom_append (inert_of_not_mem unmarked) (Nat.le_of_eq (by rw [List.append_nil]))
  rw [List.append_nil] at skipped
  rw [skipped]
  cases cs.length <;> rfl

/-- The first round, and what is found behind its candidate. -/
theorem occurrencesFrom_round (unmarked : '$' ∉ before) :
    occurrencesFrom (before ++ '$' :: rest).length offset (before ++ '$' :: rest) =
      (occurrenceAt? (offset + byteLength before) rest).toList ++
        occurrencesFrom (splitToken rest).2.length
          (offset + byteLength (before ++ '$' :: (splitToken rest).1)) (splitToken rest).2 := by
  rw [occurrencesFrom_append (inert_of_not_mem unmarked) (Nat.le_refl _),
    occurrencesFrom_bound (rest.length + 1)
      (by rw [List.length_append]; exact Nat.le_add_left _ _) (Nat.le_refl _),
    occurrencesFrom_mark, occurrencesFrom_bound _ (length_splitToken rest) (Nat.le_refl _),
    Nat.add_assoc, Text.byteLength_append]
  rfl

theorem Scans.eq (scans : Scans rounds offset cs os) :
    os = occurrencesFrom cs.length offset cs := by
  induction scans with
  | done unmarked => exact (occurrencesFrom_of_unmarked unmarked).symm
  | round unmarked _ ih => rw [occurrencesFrom_round unmarked, ← ih]

/-- A scan of every text ends, and each of its rounds leaves a mark behind. -/
theorem exists_scans (offset : Nat) (cs : List Char) :
    ∃ rounds ≤ cs.count '$', Scans rounds offset cs (occurrencesFrom cs.length offset cs) := by
  induction length : cs.length using Nat.strongRecOn generalizing offset cs with
  | ind n ih =>
      subst length
      by_cases marked : '$' ∈ cs
      · obtain ⟨before, rest, rfl, unmarked⟩ := List.eq_append_cons_of_mem marked
        have shorter := length_splitToken rest
        obtain ⟨rounds, few, scans⟩ := ih (splitToken rest).2.length
          (by rw [List.length_append, List.length_cons]; omega)
          (offset + byteLength (before ++ '$' :: (splitToken rest).1)) _ rfl
        rw [occurrencesFrom_round unmarked]
        refine ⟨rounds + 1, ?_, .round unmarked scans⟩
        have parts := congrArg (List.count '$') (append_splitToken rest)
        rw [List.count_append] at parts
        rw [List.count_append, List.count_cons_self]
        omega
      · rw [occurrencesFrom_of_unmarked marked]
        exact ⟨0, Nat.zero_le _, .done marked⟩

/-- A scan ends on every text, after no more rounds than there are marks, and finds what occurs. -/
theorem scans_iff :
    (∃ rounds ≤ cs.count '$', Scans rounds offset cs os) ↔
      os = occurrencesFrom cs.length offset cs := by
  constructor
  · rintro ⟨_, -, scans⟩
    exact scans.eq
  · rintro rfl
    exact exists_scans offset cs

end Rounds

/-! ## Places of occurrences -/

section Places

variable {rounds offset : Nat} {cs text : List Char} {os : List Occurrence} {o : Occurrence}

/-- What a scan finds stands one behind the other, from its offset on. -/
theorem Scans.ascending (scans : Scans rounds offset cs os) :
    os.Pairwise (fun o p => o.span.stop ≤ p.span.start) ∧ ∀ o ∈ os, offset ≤ o.span.start := by
  induction scans with
  | done => exact ⟨.nil, by simp⟩
  | @round rounds offset before rest os _ _ ih =>
      obtain ⟨ascending, behind⟩ := ih
      rw [Text.byteLength_append] at behind
      unfold occurrenceAt?
      cases token : classify? ('$' :: (splitToken rest).1) (splitToken rest).2 with
      | none => exact ⟨ascending, fun o member => by have := behind o member; omega⟩
      | some found =>
          obtain ⟨path, membership⟩ := found
          obtain ⟨more, parts⟩ := prefix_of_classify? token
          have within := congrArg byteLength parts
          rw [Text.byteLength_append] at within
          have later : ∀ p ∈ os, offset + byteLength before + byteLength path ≤ p.span.start :=
            fun p member => by have := behind p member; omega
          refine ⟨List.pairwise_cons.mpr ⟨later, ascending⟩,
            List.forall_mem_cons.mpr ⟨Nat.le_add_right _ _, fun p member => ?_⟩⟩
          have := later p member
          omega

/-- The place of an occurrence holds its path, which starts with a mark. -/
theorem Occurrence.In.place (found : o.In text) :
    slice? o.span.start o.span.stop text = some o.path ∧ ∃ more, o.path = '$' :: more := by
  obtain ⟨before, rest, rfl, token, span⟩ := found
  obtain ⟨behind, parts⟩ := prefix_of_classify? token
  refine ⟨Text.slice?_eq_some_iff.mpr ⟨before, behind ++ (splitToken rest).2, ?_, ?_, ?_⟩,
    exists_path_of_classify? token⟩
  · rw [List.append_assoc, ← List.append_assoc o.path, parts, List.cons_append, append_splitToken]
  · rw [span]
  · rw [span, Text.byteLength_append]

theorem in_of_mem_occurrences (occurs : o ∈ occurrences text) : o.In text :=
  in_of_mem_occurrencesFrom [] occurs

theorem ascending_occurrences (text : List Char) :
    (occurrences text).Pairwise fun o p => o.span.stop ≤ p.span.start := by
  obtain ⟨_, -, scans⟩ := exists_scans 0 text
  exact scans.ascending.1

end Places

/-! ## Texts between places -/

/-- The texts before, between and behind spans, from an offset on, as far as they are there. -/
def gapsFrom (text : List Char) : Nat → List Span → List (Option (List Char))
  | last, [] => [slice? last (byteLength text) text]
  | last, s :: rest => slice? last s.start text :: gapsFrom text s.stop rest

section Gaps

variable {text word : List Char} {spans : List Span}

/-- Ascending spans of one word cut a text into that word and the texts around it. -/
theorem exists_gapsFrom (done : List Char) {rest : List Char} (parts : text = done ++ rest)
    (ascending : spans.Pairwise fun s t => s.stop ≤ t.start)
    (behind : ∀ s ∈ spans, byteLength done ≤ s.start)
    (words : ∀ s ∈ spans, slice? s.start s.stop text = some word) :
    ∃ gap gaps, gapsFrom text (byteLength done) spans = (gap :: gaps).map some ∧
      rest = word.intercalate (gap :: gaps) := by
  induction spans generalizing done rest with
  | nil =>
      refine ⟨rest, [], ?_, List.intercalate_singleton.symm⟩
      have last : slice? (byteLength done) (byteLength text) text = some rest :=
        Text.slice?_eq_some_iff.mpr ⟨done, [], by simpa using parts, rfl, by rw [parts]⟩
      rw [gapsFrom, last]
      rfl
  | cons s spans ih =>
      obtain ⟨later, ascending⟩ := List.pairwise_cons.mp ascending
      obtain ⟨first, behind⟩ := List.forall_mem_cons.mp behind
      obtain ⟨here, words⟩ := List.forall_mem_cons.mp words
      obtain ⟨a, b, cut, start, stop⟩ := Text.slice?_eq_some_iff.mp here
      rw [List.append_assoc] at cut
      obtain ⟨gap, rfl, rfl⟩ := Text.exists_append_of_byteLength_le (parts.symm.trans cut)
        (start.symm ▸ first)
      obtain ⟨next, gaps, cuts, rfl⟩ := ih (done ++ gap ++ word)
        (by rw [cut, ← List.append_assoc]) ascending
        (fun t member => stop.symm ▸ later t member) words
      refine ⟨gap, next :: gaps, ?_, by rw [List.intercalate_cons_cons, List.append_assoc]⟩
      have between : slice? (byteLength done) s.start text = some gap :=
        Text.slice?_eq_some_iff.mpr ⟨done, word ++ word.intercalate (next :: gaps), cut, rfl, start⟩
      rw [gapsFrom, between, ← stop, cuts]
      rfl

/-- Where no text around spans is missing, a name in place of the spans stands between these
texts. -/
theorem replaceSpans_of_gapsFrom (name : List Char) {last : Nat} {gap : List Char}
    {gaps : List (List Char)} (cuts : gapsFrom text last spans = (gap :: gaps).map some) :
    Reference.replaceSpans name text last spans = name.intercalate (gap :: gaps) := by
  induction spans generalizing last gap gaps with
  | nil =>
      obtain ⟨first, none⟩ := List.cons.inj cuts
      obtain rfl : gaps = [] := List.map_eq_nil_iff.mp none.symm
      rw [Reference.replaceSpans, Reference.sliceOf, first, List.intercalate_singleton]
      rfl
  | cons s spans ih =>
      obtain ⟨first, others⟩ := List.cons.inj cuts
      cases gaps with
      | nil => cases spans <;> cases others
      | cons next gaps =>
          rw [Reference.replaceSpans, Reference.sliceOf, first, ih others,
            List.intercalate_cons_cons]
          rfl

end Gaps

/-! ## References -/

/-- Whether the places of a reference are exact: they are parts of the condition, all those at which
a token occurs, one behind the other, each of them holds the path, and a substitution puts a name
between the texts around them and keeps these. -/
structure Reference.Splices (r : Reference) (condition : String) : Prop where
  occurs : r.spans ≠ []
  all : r.spans = (occurrences condition.toList).map (·.span)
  ascending : r.spans.Pairwise fun s t => s.stop ≤ t.start
  within : ∀ s ∈ r.spans, s.start < s.stop ∧ s.stop ≤ byteLength condition.toList
  holds : ∀ s ∈ r.spans, slice? s.start s.stop condition.toList = some r.path.toList
  kept : r.substitute condition r.path = condition
  replaced : ∃ gaps, gapsFrom condition.toList 0 r.spans = gaps.map some ∧
    condition.toList = r.path.toList.intercalate gaps ∧
    ∀ name, (r.substitute condition name).toList = name.toList.intercalate gaps

/-- The reference of occurrences that all have its path is exact. -/
theorem splices_of_occurrences {condition : String} {r : Reference}
    (spans : r.spans = (occurrences condition.toList).map (·.span))
    (paths : ∀ o ∈ occurrences condition.toList, o.path = r.path.toList)
    (occurs : occurrences condition.toList ≠ []) : r.Splices condition := by
  have places : ∀ s ∈ r.spans, slice? s.start s.stop condition.toList = some r.path.toList ∧
      ∃ more, r.path.toList = '$' :: more := by
    rw [spans]
    intro s member
    obtain ⟨o, found, rfl⟩ := List.mem_map.mp member
    rw [← paths o found]
    exact (in_of_mem_occurrences found).place
  have ascending : r.spans.Pairwise fun s t => s.stop ≤ t.start := by
    rw [spans, List.pairwise_map]
    exact ascending_occurrences _
  obtain ⟨gap, gaps, cuts, whole⟩ := exists_gapsFrom [] rfl ascending (fun s _ => Nat.zero_le _)
    fun s member => (places s member).1
  have replaced (name : String) :
      (r.substitute condition name).toList = name.toList.intercalate (gap :: gaps) := by
    rw [Reference.substitute, String.toList_ofList]
    exact replaceSpans_of_gapsFrom name.toList cuts
  refine ⟨by rwa [spans, Ne, List.map_eq_nil_iff], spans, ascending, fun s member => ?_,
    fun s member => (places s member).1, String.toList_inj.mp ((replaced _).trans whole.symm),
    gap :: gaps, cuts, whole, replaced⟩
  obtain ⟨here, more, path⟩ := places s member
  obtain ⟨a, b, parts, start, stop⟩ := Text.slice?_eq_some_iff.mp here
  have positive := '$'.utf8Size_pos
  rw [path, Text.byteLength_append, Text.byteLength_cons] at stop
  rw [parts, path, Text.byteLength_append, Text.byteLength_append, Text.byteLength_cons]
  omega

/-! ## Several tokens -/

/-- An element that is there already is no new one. -/
theorem eraseDups_concat {α : Type} [BEq α] [LawfulBEq α] (xs : List α) (x : α) :
    (xs ++ [x]).eraseDups = if x ∈ xs then xs.eraseDups else xs.eraseDups ++ [x] := by
  rw [List.eraseDups_append]
  by_cases known : x ∈ xs
  · simp [List.removeAll, known]
  · simp [List.removeAll, known, List.eraseDups_cons]

theorem nodup_eraseDups {α : Type} [BEq α] [LawfulBEq α] (xs : List α) : xs.eraseDups.Nodup := by
  induction xs using List.reverseRecOn with
  | nil => exact .nil
  | append_singleton xs x ih =>
      rw [eraseDups_concat]
      split
      case isTrue => exact ih
      case isFalse new =>
          refine List.nodup_append.mpr ⟨ih, List.nodup_singleton x, fun y member z single => ?_⟩
          rw [List.mem_singleton.mp single]
          rintro rfl
          exact new (List.mem_eraseDups.mp member)

namespace Reference

/-- A reference of a new path comes last. -/
theorem map_path_add (o : Occurrence) (rs : List Reference) :
    (add o rs).map (·.path.toList) =
      if o.path ∈ rs.map (·.path.toList) then rs.map (·.path.toList)
      else rs.map (·.path.toList) ++ [o.path] := by
  induction rs with
  | nil => simp [add]
  | cons r rs ih =>
      unfold add
      split
      case isTrue same => simp [← same]
      case isFalse other =>
          rw [List.map_cons, ih, List.map_cons]
          by_cases known : o.path ∈ rs.map (·.path.toList) <;>
            simp [known, Ne.symm other]

/-- The paths of the references of a condition are those of its occurrences, in the order in which
they occur for the first time. -/
theorem map_path_all (condition : String) :
    (all condition).map (·.path.toList) =
      ((occurrences condition.toList).map (·.path)).eraseDups := by
  unfold all
  induction occurrences condition.toList using List.reverseRecOn with
  | nil => rfl
  | append_singleton os o ih =>
      rw [List.foldl_append, List.foldl_cons, List.foldl_nil, map_path_add, ih, List.map_append,
        List.map_singleton, eraseDups_concat]
      simp only [List.mem_eraseDups]

end Reference

/-- Whether tokens are all those of a condition: several, none of them twice, in the order in which
they occur for the first time, each of them a part of the condition that starts with a mark. -/
structure Tokens (tokens : List String) (condition : String) : Prop where
  several : 2 ≤ tokens.length
  distinct : tokens.Nodup
  inOrder : tokens.map String.toList = ((occurrences condition.toList).map (·.path)).eraseDups
  parts : ∀ token ∈ tokens, (∃ more, token.toList = '$' :: more) ∧
    token.toList <:+: condition.toList

theorem tokens_of_scan {condition text : String} {tokens : List String}
    (fails : Reference.scan condition = .error (.severalReferences text tokens)) :
    Tokens tokens condition := by
  have inOrder := Reference.map_path_all condition
  unfold Reference.scan at fails
  generalize Reference.all condition = rs at inOrder fails
  match rs with
  | [] => cases fails
  | [r] => cases fails
  | first :: second :: rest =>
      cases fails
      rw [show (fun r : Reference => r.path.toList) = String.toList ∘ (·.path) from rfl,
        ← List.map_map] at inOrder
      refine ⟨by simp, List.Nodup.of_map String.toList (inOrder ▸ nodup_eraseDups _), inOrder,
        fun token member => ?_⟩
      have occurs : token.toList ∈ (occurrences condition.toList).map (·.path) := by
        rw [← List.mem_eraseDups, ← inOrder]
        exact List.mem_map_of_mem member
      obtain ⟨o, found, path⟩ := List.mem_map.mp occurs
      obtain ⟨here, mark⟩ := (in_of_mem_occurrences found).place
      obtain ⟨a, b, parts, -, -⟩ := Text.slice?_eq_some_iff.mp here
      rw [← path]
      exact ⟨mark, a, b, parts.symm⟩

/-! ## Scans -/

/-- **The places of a token are exact, and a substitution is a splice.** A scan of a condition ends
after no more rounds than the condition has marks. What it finds stands one behind the other, each
occurrence at the place of its path. If it answers with a reference, then the places of this are
exact; if it names several tokens, these are all those of the condition; and otherwise nothing
occurs. -/
theorem scan_splices (condition : String) :
    (∀ os, (∃ rounds ≤ condition.toList.count '$', Scans rounds 0 condition.toList os) ↔
      os = occurrences condition.toList) ∧
    (occurrences condition.toList).Pairwise (fun o p => o.span.stop ≤ p.span.start) ∧
    (∀ o ∈ occurrences condition.toList,
      slice? o.span.start o.span.stop condition.toList = some o.path) ∧
    match Reference.scan condition with
    | .ok r => r.Splices condition
    | .error (.severalReferences text tokens) => text = condition ∧ Tokens tokens condition
    | .error (.noReference text) => text = condition ∧ occurrences condition.toList = []
    | .error _ => False := by
  refine ⟨fun os => scans_iff, ascending_occurrences _,
    fun o found => (in_of_mem_occurrences found).place.1, ?_⟩
  rcases occurrences_cases (occurrences condition.toList) with
    none | ⟨o, os, occurs, same⟩ | several
  · rw [scan_of_nil none]
    exact ⟨rfl, none⟩
  · rw [scan_of_single occurs same]
    refine splices_of_occurrences (by rw [occurs]) (fun p member => ?_) (by simp [occurs])
    rw [occurs] at member
    rw [String.toList_ofList]
    rcases List.mem_cons.mp member with rfl | member
    · rfl
    · exact same p member
  · obtain ⟨paths, fails⟩ := scan_of_several several
    rw [fails]
    exact ⟨rfl, tokens_of_scan fails⟩

-- Places count bytes, so the sign before the first parenthesis takes two.
example : Reference.scan "é($.a) != $.a" = .ok ⟨"$.a", false, [⟨3, 6⟩, ⟨11, 14⟩]⟩ := by rfl

end QualityGate.Condition
