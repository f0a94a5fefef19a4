import QualityGate.Proofs.Json.Scalar

/-!
# The texts of JSON values

A value with finite numbers is known by its indented text (`eq_of_pretty`). Strings and numbers are,
and containers are known by the texts of their items: the text of a value shows where it ends, so a
value is recognised in front of whatever may follow it (`IsLegible`).

What stands on one line has no control characters (`printable_compactText`).
-/

namespace QualityGate.Json

open Decimal

/-! ## Texts in front of others -/

/-- A run of characters of a kind is known in front of characters of another kind. -/
theorem append_unique {p : Char → Prop} {run run' rest rest' : List Char}
    (own : ∀ c ∈ run, p c) (own' : ∀ c ∈ run', p c)
    (ends : ∀ c ∈ rest.head?, ¬ p c) (ends' : ∀ c ∈ rest'.head?, ¬ p c)
    (same : run ++ rest = run' ++ rest') : run = run' ∧ rest = rest' := by
  induction run generalizing run' with
  | nil =>
      cases run' with
      | nil => exact ⟨rfl, same⟩
      | cons c run' =>
          rw [List.nil_append, List.cons_append] at same
          exact absurd (own' c List.mem_cons_self) (ends c (by rw [same]; rfl))
  | cons c run ih =>
      cases run' with
      | nil =>
          rw [List.nil_append, List.cons_append] at same
          exact absurd (own c List.mem_cons_self) (ends' c (by rw [← same]; rfl))
      | cons c' run' =>
          obtain ⟨rfl, tails⟩ := List.cons.inj same
          obtain ⟨rfl, behind⟩ :=
            ih (List.forall_mem_cons.mp own).2 (List.forall_mem_cons.mp own').2 tails
          exact ⟨rfl, behind⟩

/-- What may follow the text of a value: nothing, or a character that does not go on with a
number. -/
def Ends (rest : List Char) : Prop := ∀ c ∈ rest.head?, ¬ IsNumeral c

/-! ## Values with finite numbers -/

mutual

/-- Whether all numbers in a value are finite. -/
def IsFinite : Json → Prop
  | null | bool _ | string _ => True
  | number n => n.IsFinite
  | array items => IsFiniteItems items
  | object members => IsFiniteMembers members

/-- Whether all numbers in the elements of a list are finite. -/
def IsFiniteItems : List Json → Prop
  | [] => True
  | x :: xs => x.IsFinite ∧ IsFiniteItems xs

/-- Whether all numbers in the values of members are finite. -/
def IsFiniteMembers : List (String × Json) → Prop
  | [] => True
  | (_, x) :: rest => x.IsFinite ∧ IsFiniteMembers rest

end

theorem isFiniteItems_iff {items : List Json} :
    IsFiniteItems items ↔ ∀ item ∈ items, item.IsFinite := by
  induction items with
  | nil => simp [IsFiniteItems]
  | cons x xs ih => simp [IsFiniteItems, ih]

theorem isFiniteMembers_iff {members : List (String × Json)} :
    IsFiniteMembers members ↔ ∀ m ∈ members, m.2.IsFinite := by
  induction members with
  | nil => simp [IsFiniteMembers]
  | cons m rest ih => simp [IsFiniteMembers, ih]

/-! ## Kinds of values -/

/-- The character that the texts of values of this kind start with. It stands for any digit and for
a sign in the case of numbers. -/
def initial : Json → Char
  | null => 'n'
  | bool true => 't'
  | bool false => 'f'
  | number _ => '0'
  | string _ => '"'
  | array _ => '['
  | object _ => '{'

/-- The character for the kind of values whose texts start with a character. -/
def initialOf (c : Char) : Char := if c.isDigit = true ∨ c = '-' then '0' else c

section Kinds

variable {v w : Json} {level : Nat} {rest rest' : List Char}

/-- The text of a value starts with a character that shows its kind. -/
theorem exists_start_prettyText (finite : v.IsFinite) (level : Nat) :
    ∃ c cs, prettyText level v = c :: cs ∧ initialOf c = v.initial := by
  match v, finite with
  | null, _ | bool true, _ | bool false, _ => exact ⟨_, _, rfl, rfl⟩
  | string _, _ | array [], _ | array (_ :: _), _ => exact ⟨_, _, rfl, rfl⟩
  | object [], _ | object (_ :: _), _ => exact ⟨_, _, rfl, rfl⟩
  | number n, finite =>
      obtain ⟨c, cs, starts, shows⟩ := exists_start_numberText (n := n) finite
      exact ⟨c, cs, starts, if_pos shows⟩

/-- Whether two values are of one kind. Words are of one kind only if they are the same. -/
inductive Alike : Json → Json → Prop
  | null : Alike null null
  | bool (b : Bool) : Alike (bool b) (bool b)
  | number (m n : JsonNumber) : Alike (number m) (number n)
  | string (s t : String) : Alike (string s) (string t)
  | array (xs ys : List Json) : Alike (array xs) (array ys)
  | object (ms ns : List (String × Json)) : Alike (object ms) (object ns)

theorem alike_of_initial (kind : v.initial = w.initial) : Alike v w := by
  rcases v with _ | (_ | _) | _ | _ | _ | _ <;> rcases w with _ | (_ | _) | _ | _ | _ | _ <;>
    first
      | constructor
      | exact absurd kind (of_decide_eq_true rfl)

/-- Values with one text are of one kind. -/
theorem alike_of_prettyText (finite : v.IsFinite) (finite' : w.IsFinite)
    (same : prettyText level v ++ rest = prettyText level w ++ rest') : Alike v w := by
  obtain ⟨c, cs, starts, shows⟩ := exists_start_prettyText finite level
  obtain ⟨c', cs', starts', shows'⟩ := exists_start_prettyText finite' level
  rw [starts, starts'] at same
  exact alike_of_initial (by rw [← shows, ← shows', (List.cons.inj same).1])

end Kinds

/-! ## Rows -/

/-- Texts with commas between them, each on a line of its own. -/
def rows (level : Nat) : List (List Char) → List Char
  | [] => []
  | [text] => newLine level ++ text
  | text :: texts => newLine level ++ text ++ ',' :: rows level texts

/-- Texts on lines of their own between two marks. -/
def enclosed (level : Nat) (opening closing : Char) (texts : List (List Char)) : List Char :=
  if texts.isEmpty then [opening, closing]
  else opening :: (rows (level + 1) texts ++ newLine level ++ [closing])

/-- The text of a member of an object. -/
def memberText (level : Nat) (m : String × Json) : List Char :=
  quote m.1 ++ ':' :: ' ' :: prettyText level m.2

theorem prettyItems_eq_rows (level : Nat) (items : List Json) :
    prettyItems level items = rows level (items.map (prettyText level)) := by
  induction items with
  | nil => rfl
  | cons x xs ih =>
      cases xs with
      | nil => rfl
      | cons y ys =>
          rw [prettyItems, ih]
          · rfl
          · simp

theorem prettyMembers_eq_rows (level : Nat) (members : List (String × Json)) :
    prettyMembers level members = rows level (members.map (memberText level)) := by
  induction members with
  | nil => rfl
  | cons m ms ih =>
      obtain ⟨k, v⟩ := m
      cases ms with
      | nil => simp [prettyMembers, rows, memberText]
      | cons n ns =>
          rw [prettyMembers, ih]
          · simp [rows, memberText]
          · simp

theorem prettyText_array (level : Nat) (items : List Json) :
    prettyText level (array items) =
      enclosed level '[' ']' (items.map (prettyText (level + 1))) := by
  cases items with
  | nil => rfl
  | cons x xs =>
      rw [prettyText, prettyItems_eq_rows]
      rfl

theorem prettyText_object (level : Nat) (members : List (String × Json)) :
    prettyText level (object members) =
      enclosed level '{' '}' (members.map (memberText (level + 1))) := by
  cases members with
  | nil => rfl
  | cons m ms =>
      rw [prettyText, prettyMembers_eq_rows]
      rfl

section Rows

variable {α : Type} {text : α → List Char} {xs ys : List α} {level : Nat} {rest rest' : List Char}

/-- What follows the first of some rows: a comma and the others, or the end of the rows. -/
def behindRow (level : Nat) (texts : List (List Char)) (rest : List Char) : List Char :=
  if texts.isEmpty then '\n' :: rest else ',' :: (rows level texts ++ '\n' :: rest)

theorem rows_cons (level : Nat) (first : List Char) (texts : List (List Char)) (rest : List Char) :
    rows level (first :: texts) ++ '\n' :: rest =
      newLine level ++ (first ++ behindRow level texts rest) := by
  cases texts with
  | nil => simp [rows, behindRow]
  | cons second texts => simp [rows, behindRow]

theorem ends_behindRow (level : Nat) (texts : List (List Char)) (rest : List Char) :
    Ends (behindRow level texts rest) := by
  rw [behindRow]
  split
  · rintro c ⟨⟩
    simp [IsNumeral]
  · rintro c ⟨⟩
    simp [IsNumeral]

/-- Rows are known by their text if each of them is. -/
theorem rows_unique
    (each : ∀ x ∈ xs, ∀ y ∈ ys, ∀ rest rest', Ends rest → Ends rest' →
      text x ++ rest = text y ++ rest' → x = y ∧ rest = rest')
    (some : xs ≠ []) (some' : ys ≠ [])
    (same : rows level (xs.map text) ++ '\n' :: rest = rows level (ys.map text) ++ '\n' :: rest') :
    xs = ys ∧ rest = rest' := by
  induction xs generalizing ys with
  | nil => exact absurd rfl some
  | cons x xs ih =>
      obtain ⟨y, ys, rfl⟩ := List.exists_cons_of_ne_nil some'
      rw [List.map_cons, List.map_cons, rows_cons, rows_cons, List.append_cancel_left_eq] at same
      obtain ⟨rfl, behind⟩ := each x List.mem_cons_self y List.mem_cons_self _ _
        (ends_behindRow _ _ _) (ends_behindRow _ _ _) same
      -- A comma goes on with the rows, and a line break ends them.
      cases xs with
      | nil =>
          cases ys with
          | nil => exact ⟨rfl, (List.cons.inj behind).2⟩
          | cons _ _ => exact absurd (List.cons.inj behind).1 (by decide)
      | cons x' xs =>
          cases ys with
          | nil => exact absurd (List.cons.inj behind).1 (by decide)
          | cons y' ys =>
              obtain ⟨others, rests⟩ := ih
                (fun x member y member' => each x (.tail _ member) y (.tail _ member'))
                (List.cons_ne_nil _ _) (List.cons_ne_nil _ _) (List.cons.inj behind).2
              exact ⟨congrArg (x :: ·) others, rests⟩

theorem enclosed_cons (level : Nat) (opening closing : Char) (first : List Char)
    (texts : List (List Char)) (rest : List Char) :
    enclosed level opening closing (first :: texts) ++ rest =
      opening :: (rows (level + 1) (first :: texts)
        ++ '\n' :: (List.replicate (2 * level) ' ' ++ closing :: rest)) := by
  simp [enclosed, newLine]

/-- Between two marks a row is told from the closing mark by its line break. -/
theorem enclosed_nil_ne_cons {opening closing : Char} (mark : closing ≠ '\n') (first : List Char)
    (texts : List (List Char)) :
    enclosed level opening closing [] ++ rest ≠
      enclosed level opening closing (first :: texts) ++ rest' := by
  intro same
  rw [enclosed_cons, rows_cons] at same
  exact mark (List.cons.inj (List.cons.inj same).2).1

/-- What stands between two marks is known by its text if each row is. -/
theorem enclosed_unique {opening closing : Char} (mark : closing ≠ '\n')
    (each : ∀ x ∈ xs, ∀ y ∈ ys, ∀ rest rest', Ends rest → Ends rest' →
      text x ++ rest = text y ++ rest' → x = y ∧ rest = rest')
    (same : enclosed level opening closing (xs.map text) ++ rest =
      enclosed level opening closing (ys.map text) ++ rest') : xs = ys ∧ rest = rest' := by
  cases xs with
  | nil =>
      cases ys with
      | nil => exact ⟨rfl, (List.cons.inj (List.cons.inj same).2).2⟩
      | cons y ys => exact absurd same (enclosed_nil_ne_cons mark _ _)
  | cons x xs =>
      cases ys with
      | nil => exact absurd same.symm (enclosed_nil_ne_cons mark _ _)
      | cons y ys =>
          rw [List.map_cons, List.map_cons, enclosed_cons, enclosed_cons] at same
          obtain ⟨items, behind⟩ := rows_unique each (List.cons_ne_nil _ _) (List.cons_ne_nil _ _)
            (List.cons.inj same).2
          exact ⟨items, (List.cons.inj (List.append_cancel_left behind)).2⟩

end Rows

/-! ## Values -/

/-- Whether no other value has the text of a value, whatever follows it. -/
def IsLegible (v : Json) : Prop :=
  ∀ level (w : Json) rest rest', w.IsFinite → Ends rest → Ends rest' →
    prettyText level v ++ rest = prettyText level w ++ rest' → v = w ∧ rest = rest'

section Values

variable {v w : Json} {n : JsonNumber}

theorem isLegible_word (word : ∀ {w}, Alike v w → w = v) (finite : v.IsFinite) : v.IsLegible := by
  intro level w rest rest' finite' _ _ same
  obtain rfl := word (alike_of_prettyText finite finite' same)
  exact ⟨rfl, List.append_cancel_left same⟩

theorem isLegible_number (finite : n.IsFinite) : (number n).IsLegible := by
  intro level w rest rest' finite' ends ends' same
  cases alike_of_prettyText (v := number n) finite finite' same with
  | number m k =>
      obtain ⟨texts, rests⟩ := append_unique (fun _ => isNumeral_of_mem_numberText finite)
        (fun _ => isNumeral_of_mem_numberText finite') ends ends' same
      rw [eq_of_numberText finite finite' texts]
      exact ⟨rfl, rests⟩

theorem isLegible_string (s : String) : (string s).IsLegible := by
  intro level w rest rest' finite' _ _ same
  cases alike_of_prettyText (v := string s) trivial finite' same with
  | string _ t =>
      obtain ⟨rfl, rests⟩ := quote_unique same
      exact ⟨rfl, rests⟩

theorem isLegible_array {items : List Json} (finite : IsFiniteItems items)
    (each : ∀ x ∈ items, x.IsLegible) : (array items).IsLegible := by
  intro level w rest rest' finite' _ _ same
  cases alike_of_prettyText (v := array items) finite finite' same with
  | array _ ys =>
      rw [prettyText_array, prettyText_array] at same
      obtain ⟨rfl, rests⟩ := enclosed_unique (by decide)
        (fun x member y member' rest rest' => each x member (level + 1) y rest rest'
          (isFiniteItems_iff.mp finite' y member')) same
      exact ⟨rfl, rests⟩

theorem isLegible_object {members : List (String × Json)} (finite : IsFiniteMembers members)
    (each : ∀ m ∈ members, m.2.IsLegible) : (object members).IsLegible := by
  intro level w rest rest' finite' _ _ same
  cases alike_of_prettyText (v := object members) finite finite' same with
  | object _ others =>
      have known : ∀ m ∈ members, ∀ m' ∈ others, ∀ rest rest', Ends rest → Ends rest' →
          memberText (level + 1) m ++ rest = memberText (level + 1) m' ++ rest' →
          m = m' ∧ rest = rest' := by
        rintro ⟨k, x⟩ member ⟨k', x'⟩ member' rest rest' ends ends' same
        rw [memberText, memberText, List.append_assoc, List.append_assoc] at same
        obtain ⟨rfl, values⟩ := quote_unique same
        obtain ⟨rfl, rests⟩ := each _ member (level + 1) x' rest rest'
          (isFiniteMembers_iff.mp finite' _ member') ends ends'
          (List.cons.inj (List.cons.inj values).2).2
        exact ⟨rfl, rests⟩
      rw [prettyText_object, prettyText_object] at same
      obtain ⟨rfl, rests⟩ := enclosed_unique (by decide) known same
      exact ⟨rfl, rests⟩

mutual

/-- A value with finite numbers is known by its text, whatever follows it. -/
theorem isLegible : ∀ {v : Json}, v.IsFinite → v.IsLegible
  | .null, _ => isLegible_word (fun | .null => rfl) trivial
  | .bool _, _ => isLegible_word (fun | .bool _ => rfl) trivial
  | .number _, finite => isLegible_number finite
  | .string s, _ => isLegible_string s
  | .array _, finite => isLegible_array finite (isLegible_items finite)
  | .object _, finite => isLegible_object finite (isLegible_members finite)

theorem isLegible_items : ∀ {items : List Json}, IsFiniteItems items → ∀ x ∈ items, x.IsLegible
  | [], _ => List.forall_mem_nil _
  | _ :: _, ⟨first, rest⟩ => List.forall_mem_cons.mpr ⟨isLegible first, isLegible_items rest⟩

theorem isLegible_members : ∀ {members : List (String × Json)}, IsFiniteMembers members →
    ∀ m ∈ members, m.2.IsLegible
  | [], _ => List.forall_mem_nil _
  | (_, _) :: _, ⟨first, rest⟩ =>
      List.forall_mem_cons.mpr ⟨isLegible first, isLegible_members rest⟩

end

/-- Values with finite numbers are the same if their indented texts are. -/
theorem eq_of_pretty (finite : v.IsFinite) (finite' : w.IsFinite) (same : v.pretty = w.pretty) :
    v = w := by
  have texts : prettyText 0 v ++ [] = prettyText 0 w ++ [] := by
    rw [List.append_nil, List.append_nil]
    exact String.ofList_inj.mp same
  exact (isLegible finite 0 w [] [] finite' nofun nofun texts).1

end Values

/-! ## Values on one line -/

theorem printable_compactItems {items : List Json}
    (each : ∀ x ∈ items, Printable (compactText x)) : Printable (compactItems items) := by
  induction items with
  | nil => exact List.forall_mem_nil _
  | cons x xs ih =>
      obtain ⟨first, others⟩ := List.forall_mem_cons.mp each
      cases xs with
      | nil => exact first
      | cons y ys =>
          exact printable_append.mpr ⟨first, printable_cons.mpr ⟨by decide, ih others⟩⟩

theorem printable_compactMembers {members : List (String × Json)}
    (each : ∀ m ∈ members, Printable (compactText m.2)) : Printable (compactMembers members) := by
  induction members with
  | nil => exact List.forall_mem_nil _
  | cons m ms ih =>
      obtain ⟨k, v⟩ := m
      obtain ⟨first, others⟩ := List.forall_mem_cons.mp each
      have key := printable_quote k
      cases ms with
      | nil => exact printable_append.mpr ⟨key, printable_cons.mpr ⟨by decide, first⟩⟩
      | cons n ns =>
          have behind : Printable (compactText v ++ ',' :: compactMembers (n :: ns)) :=
            printable_append.mpr ⟨first, printable_cons.mpr ⟨by decide, ih others⟩⟩
          exact printable_append.mpr ⟨key, printable_cons.mpr ⟨by decide, behind⟩⟩

theorem printable_between {opening closing : Char} {text : List Char}
    (front : 32 ≤ opening.toNat) (inside : Printable text) (back : 32 ≤ closing.toNat) :
    Printable (opening :: (text ++ [closing])) :=
  printable_cons.mpr ⟨front, printable_append.mpr ⟨inside, List.forall_mem_singleton.mpr back⟩⟩

mutual

/-- What stands on one line has no control characters: in strings they are escaped. -/
theorem printable_compactText : ∀ v : Json, Printable (compactText v)
  | .null | .bool true | .bool false => by simp [compactText, Printable]
  | .number n => printable_numberText n
  | .string s => printable_quote s
  | .array items =>
      printable_between (by decide) (printable_compactItems (printable_items items)) (by decide)
  | .object members =>
      printable_between (by decide) (printable_compactMembers (printable_members members))
        (by decide)

theorem printable_items : ∀ items : List Json, ∀ x ∈ items, Printable (compactText x)
  | [] => List.forall_mem_nil _
  | x :: rest => List.forall_mem_cons.mpr ⟨printable_compactText x, printable_items rest⟩

theorem printable_members : ∀ members : List (String × Json),
    ∀ m ∈ members, Printable (compactText m.2)
  | [] => List.forall_mem_nil _
  | (_, v) :: rest => List.forall_mem_cons.mpr ⟨printable_compactText v, printable_members rest⟩

end

end QualityGate.Json
