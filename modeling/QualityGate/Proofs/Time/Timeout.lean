import QualityGate.Proofs.Text.Character
import QualityGate.Time.Timeout

/-!
# Timeouts and their texts

The text of a timeout is a row of entries, each a number of one unit (`entries`). Reading adds the
entries up, whatever they are, as long as the sum is a timeout that can be held (`readParts_row`);
and the entries of a timeout add up to it (`total_entries`). So every timeout that can be held is read
back from its text (`parse?_render`), and no other is read from any text (`lt_of_parse?`).
-/

namespace QualityGate.Time.Timeout

/-- The first number of nanoseconds that no timeout can hold: its seconds do not fit 64 bits. -/
def limit : Nat := 0x1_0000_0000_0000_0000 * 1_000_000_000

/-! ## Sums -/

/-- The nanoseconds of a unit. -/
def TimeUnit.nanos : TimeUnit → Nat
  | small nanos => nanos
  | large seconds => seconds * 1_000_000_000

@[simp] theorem TimeUnit.nanos_small (nanos : Nat) : (small nanos).nanos = nanos := rfl

@[simp] theorem TimeUnit.nanos_large (seconds : Nat) :
    (large seconds).nanos = seconds * 1_000_000_000 := rfl

section Sums

variable {n m timeout seconds nanos numerator denominator : Nat} {unit : TimeUnit}

theorem fit_eq_some_iff : fit n = some m ↔ n < 0x1_0000_0000_0000_0000 ∧ m = n := by
  rw [fit]
  split
  case isTrue small => simp [small, eq_comm]
  case isFalse large => simp [large]

theorem fit_of_lt (small : n < 0x1_0000_0000_0000_0000) : fit n = some n :=
  fit_eq_some_iff.mpr ⟨small, rfl⟩

/-- Seconds and nanoseconds are added exactly, if all numbers on the way fit. -/
theorem add_eq_some_iff :
    add timeout seconds nanos = some m ↔
      timeout % 1_000_000_000 + nanos < 0x1_0000_0000_0000_0000 ∧
      (timeout + seconds * 1_000_000_000 + nanos) / 1_000_000_000 < 0x1_0000_0000_0000_0000 ∧
      m = timeout + seconds * 1_000_000_000 + nanos := by
  simp only [add, Option.bind_eq_bind, Option.bind_eq_some_iff, fit_eq_some_iff, Option.pure_def,
    Option.some.injEq]
  constructor
  · rintro ⟨_, ⟨fits, rfl⟩, _, ⟨_, rfl⟩, _, ⟨whole, rfl⟩, rfl⟩
    omega
  · rintro ⟨fits, whole, rfl⟩
    exact ⟨_, ⟨fits, rfl⟩, _, ⟨by omega, rfl⟩, _, ⟨by omega, rfl⟩, by omega⟩

/-- What is added to a timeout leaves one that can be held. -/
theorem lt_of_add (added : add timeout seconds nanos = some m) : m < limit := by
  obtain ⟨-, whole, rfl⟩ := add_eq_some_iff.mp added
  unfold limit
  omega

theorem lt_of_addWhole (added : addWhole timeout n unit = some m) : m < limit := by
  cases unit with
  | small nanos =>
      obtain ⟨_, -, added⟩ := Option.bind_eq_some_iff.mp added
      exact lt_of_add added
  | large seconds =>
      obtain ⟨_, -, added⟩ := Option.bind_eq_some_iff.mp added
      exact lt_of_add added

theorem lt_of_addFraction (added : addFraction timeout numerator denominator unit = some m) :
    m < limit := by
  cases unit with
  | small nanos =>
      obtain ⟨_, -, added⟩ := Option.bind_eq_some_iff.mp added
      exact lt_of_add added
  | large seconds =>
      rw [addFraction] at added
      split at added
      case isTrue =>
          obtain ⟨_, -, added⟩ := Option.bind_eq_some_iff.mp added
          exact lt_of_add added
      case isFalse =>
          obtain ⟨_, -, added⟩ := Option.bind_eq_some_iff.mp added
          exact lt_of_add added

/-- Whole units are added exactly if the sum can be held and small units are less than a second. -/
theorem addWhole_of_lt (fits : timeout + n * unit.nanos < limit)
    (part : ∀ nanos, unit = .small nanos → n * nanos < 1_000_000_000) :
    addWhole timeout n unit = some (timeout + n * unit.nanos) := by
  rw [limit] at fits
  cases unit with
  | small nanos =>
      have part := part nanos rfl
      rw [TimeUnit.nanos_small] at fits ⊢
      refine Option.bind_eq_some_iff.mpr ⟨_, fit_eq_some_iff.mpr ⟨by omega, rfl⟩, ?_⟩
      rw [add_eq_some_iff, Nat.zero_mul, Nat.add_zero]
      exact ⟨by omega, by omega, rfl⟩
  | large seconds =>
      rw [TimeUnit.nanos_large, ← Nat.mul_assoc] at fits ⊢
      refine Option.bind_eq_some_iff.mpr ⟨_, fit_eq_some_iff.mpr ⟨by omega, rfl⟩, ?_⟩
      exact add_eq_some_iff.mpr ⟨by omega, by omega, (Nat.add_zero _).symm⟩

end Sums

/-! ## Reading -/

section Reading

variable {n m acc timeout fuel : Nat} {cs ds rest : List Char}

/-- Whatever is read, its timeout can be held. -/
theorem lt_of_readPart (read : readPart timeout cs = some (m, rest)) : m < limit := by
  obtain ⟨⟨n, behind⟩, -, read⟩ := Option.bind_eq_some_iff.mp read
  dsimp only at read
  split at read
  case h_1 fraction =>
      obtain ⟨⟨⟨numerator, denominator⟩, behind⟩, -, read⟩ := Option.bind_eq_some_iff.mp read
      obtain ⟨unit, -, read⟩ := Option.bind_eq_some_iff.mp read
      obtain ⟨whole, -, read⟩ := Option.bind_eq_some_iff.mp read
      obtain ⟨sum, added, read⟩ := Option.bind_eq_some_iff.mp read
      cases read
      exact lt_of_addFraction added
  case h_2 =>
      obtain ⟨unit, -, read⟩ := Option.bind_eq_some_iff.mp read
      obtain ⟨sum, added, read⟩ := Option.bind_eq_some_iff.mp read
      cases read
      exact lt_of_addWhole added

theorem lt_of_readParts (start : timeout < limit) (read : readParts fuel timeout cs = some m) :
    m < limit := by
  induction fuel generalizing timeout cs with
  | zero => cases read
  | succ fuel ih =>
      unfold readParts at read
      split at read
      case h_1 =>
          cases read
          exact start
      case h_2 =>
          split at read
          case isTrue =>
              obtain ⟨⟨sum, behind⟩, part, read⟩ := Option.bind_eq_some_iff.mp read
              exact ih (lt_of_readPart part) read
          case isFalse => cases read

/-- The timeout of a text can be held. -/
theorem lt_of_parse? {text : String} (read : parse? text = some m) : m < limit := by
  simp only [parse?] at read
  split at read
  case isTrue =>
      cases read
      decide
  case isFalse =>
      split at read
      case isTrue => cases read
      case isFalse => exact lt_of_readParts (by decide) read

/-! ### Digits and letters -/

/-- A letter is neither a digit nor a blank. -/
theorem not_isDigit_of_isUnitChar {c : Char} (letter : isUnitChar c = true) :
    Text.isDigit c = false ∧ Text.isBlank c = false := by
  simp only [isUnitChar, Bool.or_eq_true, Text.isLetter_iff, beq_iff_eq, ← Char.toNat_inj,
    Char.reduceToNat] at letter
  constructor
  · rw [Bool.eq_false_iff, ne_eq, Text.isDigit_iff]
    omega
  · exact Text.isBlank_eq_false (by omega) (by omega) (by omega) (by omega)

theorem isDigit_of_mem_digitsOf {c : Char} (member : c ∈ Decimal.digitsOf n) :
    Text.isDigit c = true :=
  Nat.isDigit_of_mem_toDigits (by decide) (by decide) member

theorem le_ofDigitChars (acc : Nat) (ds : List Char) : acc ≤ Nat.ofDigitChars 10 ds acc := by
  induction ds generalizing acc with
  | nil => exact Nat.le_refl acc
  | cons d ds ih =>
      rw [Nat.ofDigitChars_cons]
      exact Nat.le_trans (by omega) (ih _)

/-- A number is read up to the letters behind it. -/
theorem readNumber_append (digits : ∀ d ∈ ds, Text.isDigit d = true)
    (fits : Nat.ofDigitChars 10 ds acc < 0x1_0000_0000_0000_0000)
    (behind : ∀ c ∈ rest.head?, isUnitChar c = true) :
    readNumber acc (ds ++ rest) = some (Nat.ofDigitChars 10 ds acc, rest) := by
  induction ds generalizing acc with
  | nil =>
      cases rest with
      | nil => rfl
      | cons c rest =>
          have letter := behind c rfl
          obtain ⟨noDigit, noBlank⟩ := not_isDigit_of_isUnitChar letter
          simp [readNumber, noDigit, noBlank, letter, Nat.ofDigitChars]
  | cons d ds ih =>
      rw [Nat.ofDigitChars_cons, Nat.mul_comm] at fits ⊢
      have small := fit_of_lt (Nat.lt_of_le_of_lt (le_ofDigitChars _ ds) fits)
      rw [List.cons_append, readNumber, if_pos (digits d List.mem_cons_self)]
      refine Option.bind_eq_some_iff.mpr ⟨_, small, ih (fun e later => ?_) fits⟩
      exact digits e (List.mem_cons_of_mem d later)

end Reading

/-! ## Entries -/

/-- A number of one unit, in the text of a timeout. -/
structure Entry where
  count : Nat
  name : List Char
  unit : TimeUnit

namespace Entry

/-- The text of an entry. -/
def chars (e : Entry) : List Char := Decimal.digitsOf e.count ++ e.name

/-- What an entry adds to a timeout. -/
def nanos (e : Entry) : Nat := e.count * e.unit.nanos

/-- Whether the name of an entry is that of its unit, and its unit is not too small for its
number. -/
structure Sound (e : Entry) : Prop where
  named : unit? e.name = some e.unit
  letters : e.name.all isUnitChar = true
  part : ∀ nanos, e.unit = .small nanos → e.count * nanos < 1_000_000_000

variable {e : Entry} {name : List Char} {unit : TimeUnit} {timeout : Nat} {rest : List Char}

theorem nanos_pos_of_unit? (named : unit? name = some unit) : 0 < unit.nanos := by
  have step {p : Prop} [Decidable p] {own : TimeUnit} {others : Option TimeUnit}
      (here : 0 < own.nanos) (behind : ∀ unit, others = some unit → 0 < unit.nanos) (unit : TimeUnit)
      (found : (if p then some own else others) = some unit) : 0 < unit.nanos := by
    split at found
    case isTrue =>
        cases found
        exact here
    case isFalse => exact behind unit found
  refine step ?_ (step ?_ (step ?_ (step ?_ (step ?_ (step ?_ (step ?_ (step ?_ (step ?_
    (step ?_ (fun _ absent => by cases absent)))))))))) unit named
  all_goals decide

theorem Sound.name_ne_nil (sound : e.Sound) : e.name ≠ [] := by
  intro none
  have named := sound.named
  rw [none] at named
  cases named

/-- The text of an entry starts with a digit and goes on. -/
theorem Sound.chars_eq (sound : e.Sound) :
    ∃ d c cs, e.chars = d :: c :: cs ∧ Text.isDigit d = true := by
  obtain ⟨d, ds, digits⟩ : ∃ d ds, Decimal.digitsOf e.count = d :: ds :=
    List.exists_cons_of_ne_nil Nat.toDigits_ne_nil
  obtain ⟨c, cs, behind⟩ : ∃ c cs, ds ++ e.name = c :: cs :=
    List.exists_cons_of_ne_nil fun none => sound.name_ne_nil (List.append_eq_nil_iff.mp none).2
  refine ⟨d, c, cs, ?_, isDigit_of_mem_digitsOf (n := e.count) ?_⟩
  · rw [chars, digits, List.cons_append, behind]
  · rw [digits]
    exact List.mem_cons_self

/-- The number of an entry fits 64 bits if what it adds can be held. -/
theorem Sound.count_lt (sound : e.Sound) (fits : e.nanos < limit) :
    e.count < 0x1_0000_0000_0000_0000 := by
  have positive := nanos_pos_of_unit? sound.named
  have part := sound.part
  rw [nanos, limit] at fits
  cases unit : e.unit with
  | small nanos =>
      rw [unit, TimeUnit.nanos_small] at positive
      have := Nat.le_mul_of_pos_right e.count positive
      have := part nanos unit
      omega
  | large seconds =>
      rw [unit, TimeUnit.nanos_large] at positive fits
      rw [← Nat.mul_assoc] at fits
      have := Nat.le_mul_of_pos_right e.count (show 0 < seconds by omega)
      omega

/-- An entry is read as what it adds, if the sum can be held. -/
theorem Sound.readPart_append (sound : e.Sound) (fits : timeout + e.nanos < limit)
    (behind : ∀ c ∈ rest.head?, isUnitChar c = false) :
    readPart timeout (e.chars ++ rest) = some (timeout + e.nanos, rest) := by
  obtain ⟨c, cs, name⟩ := List.exists_cons_of_ne_nil sound.name_ne_nil
  have letters := List.all_eq_true.mp sound.letters
  have letter : isUnitChar c = true := letters c (name ▸ List.mem_cons_self)
  have value : Nat.ofDigitChars 10 (Decimal.digitsOf e.count) 0 = e.count :=
    Nat.ofDigitChars_toDigits (by decide) (by decide)
  have number : readNumber 0 (e.chars ++ rest) = some (e.count, e.name ++ rest) := by
    have small : Nat.ofDigitChars 10 (Decimal.digitsOf e.count) 0 < 0x1_0000_0000_0000_0000 :=
      value.symm ▸ sound.count_lt (Nat.lt_of_le_of_lt (Nat.le_add_left ..) fits)
    have unit : ∀ d ∈ (e.name ++ rest).head?, isUnitChar d = true := by
      rw [name]
      rintro _ ⟨⟩
      exact letter
    rw [chars, List.append_assoc,
      readNumber_append (fun d => isDigit_of_mem_digitsOf) small unit, value]
  have front : (e.name ++ rest).takeWhile isUnitChar = e.name := by
    rw [List.takeWhile_append_of_pos letters]
    cases rest with
    | nil => exact List.append_nil e.name
    | cons c rest => rw [List.takeWhile_cons_of_neg (by simp [behind c rfl]), List.append_nil]
  have back : (e.name ++ rest).dropWhile isUnitChar = rest := by
    rw [List.dropWhile_append_of_pos letters]
    cases rest with
    | nil => rfl
    | cons c rest => rw [List.dropWhile_cons_of_neg (by simp [behind c rfl])]
  rw [readPart, number, Option.bind_eq_bind, Option.bind_some]
  dsimp only
  split
  case h_1 point =>
      rw [name] at point
      cases point
      cases letter
  case h_2 =>
      rw [front, back, sound.named, Option.bind_eq_bind, Option.bind_some,
        addWhole_of_lt fits sound.part]
      rfl

end Entry

/-- What a row of entries adds up to. -/
def total : List Entry → Nat
  | [] => 0
  | e :: row => e.nanos + total row

theorem total_append (row others : List Entry) : total (row ++ others) = total row + total others := by
  induction row with
  | nil => exact (Nat.zero_add _).symm
  | cons e row ih => rw [List.cons_append, total, total, ih, Nat.add_assoc]

/-- Parts are joined one by one. -/
theorem joinParts_cons (p : List Char) (rest : List (List Char)) :
    joinParts (p :: rest) = p ++ ((if rest = [] then [] else [' ']) ++ joinParts rest) := by
  cases rest <;> simp [joinParts]

/-- A blank before a part is not seen. -/
theorem readParts_blank {c : Char} (blank : Text.isBlank c = true) (fuel timeout : Nat)
    (cs : List Char) : readParts fuel timeout (c :: cs) = readParts fuel timeout cs := by
  cases fuel with
  | zero => rfl
  | succ fuel => rw [readParts, readParts, List.dropWhile_cons_of_pos blank]

theorem not_isBlank_of_isDigit {c : Char} (digit : Text.isDigit c = true) :
    Text.isBlank c = false := by
  rw [Text.isDigit_iff] at digit
  exact Text.isBlank_eq_false (by omega) (by omega) (by omega) (by omega)

/-- A part is read, and then what is behind it. -/
theorem readParts_cons {d : Char} {cs rest : List Char} {timeout sum : Nat}
    (digit : Text.isDigit d = true) (part : readPart timeout (d :: cs) = some (sum, rest))
    (fuel : Nat) : readParts (fuel + 1) timeout (d :: cs) = readParts fuel sum rest := by
  rw [readParts, List.dropWhile_cons_of_neg (by simp [not_isBlank_of_isDigit digit])]
  dsimp only
  rw [if_pos digit, part]
  rfl

/-- A row of entries is read as what they add, if the sum can be held. -/
theorem readParts_row {row : List Entry} (sound : ∀ e ∈ row, e.Sound) {timeout fuel : Nat}
    (fits : timeout + total row < limit) (enough : row.length < fuel) :
    readParts fuel timeout (joinParts (row.map Entry.chars)) = some (timeout + total row) := by
  induction row generalizing timeout fuel with
  | nil =>
      obtain ⟨fuel, rfl⟩ := Nat.exists_eq_add_of_lt enough
      rfl
  | cons e row ih =>
      obtain ⟨own, others⟩ := List.forall_mem_cons.mp sound
      obtain ⟨fuel, rfl⟩ : ∃ more, fuel = more + 1 := ⟨fuel - 1, by omega⟩
      rw [total, ← Nat.add_assoc] at fits ⊢
      have next := ih others fits (Nat.lt_of_succ_lt_succ enough)
      obtain ⟨d, c, cs, chars, digit⟩ := own.chars_eq
      generalize gap : (if row.map Entry.chars = [] then [] else [' ']) = blanks
      have behind : ∀ c ∈ (blanks ++ joinParts (row.map Entry.chars)).head?,
          isUnitChar c = false := by
        subst gap
        cases row with
        | nil => exact nofun
        | cons e row =>
            rintro _ ⟨⟩
            rfl
      have skip : readParts fuel (timeout + e.nanos) (blanks ++ joinParts (row.map Entry.chars)) =
          readParts fuel (timeout + e.nanos) (joinParts (row.map Entry.chars)) := by
        subst gap
        split
        case isTrue => rfl
        case isFalse => exact readParts_blank rfl ..
      have part := own.readPart_append (Nat.lt_of_le_of_lt (Nat.le_add_right ..) fits) behind
      rw [List.map_cons, joinParts_cons, gap, chars, List.cons_append]
      rw [chars, List.cons_append] at part
      rw [readParts_cons digit part, skip, next]

/-! ## Writing -/

/-- The entry of a number of units, if it is not zero. -/
def entry (count : Nat) (name : List Char) (unit : TimeUnit) : List Entry :=
  if count = 0 then [] else [⟨count, name, unit⟩]

/-- The entry of a number of units whose name has a plural, if it is not zero. -/
def entryNamed (count : Nat) (name : List Char) (unit : TimeUnit) : List Entry :=
  entry count (if 1 < count then name ++ ['s'] else name) unit

/-- The entries of a timeout. -/
def entries (timeout : Nat) : List Entry :=
  if timeout = 0 then [⟨0, ['s'], .large 1⟩]
  else
    let seconds := timeout / 1_000_000_000
    let nanos := timeout % 1_000_000_000
    let yearRest := seconds % yearSeconds
    let monthRest := yearRest % monthSeconds
    let dayRest := monthRest % 86400
    entryNamed (seconds / yearSeconds) ['y', 'e', 'a', 'r'] (.large yearSeconds)
      ++ entryNamed (yearRest / monthSeconds) ['m', 'o', 'n', 't', 'h'] (.large monthSeconds)
      ++ entryNamed (monthRest / 86400) ['d', 'a', 'y'] (.large 86400)
      ++ entry (dayRest / 3600) ['h'] (.large 3600)
      ++ entry (dayRest % 3600 / 60) ['m'] (.large 60)
      ++ entry (dayRest % 60) ['s'] (.large 1)
      ++ entry (nanos / 1_000_000) ['m', 's'] (.small 1_000_000)
      ++ entry (nanos / 1000 % 1000) ['u', 's'] (.small 1000)
      ++ entry (nanos % 1000) ['n', 's'] (.small 1)

section Writing

variable {count timeout : Nat} {name : List Char} {unit : TimeUnit}

theorem map_chars_entry : (entry count name unit).map Entry.chars = part count name := by
  rw [entry, part]
  split <;> rfl

/-- The text of a timeout is that of its entries. -/
theorem toList_render (timeout : Nat) :
    (render timeout).toList = joinParts ((entries timeout).map Entry.chars) := by
  rw [render, String.toList_ofList]
  by_cases zero : timeout = 0
  · rw [if_pos zero, entries, if_pos zero]
    rfl
  · rw [if_neg zero, entries, if_neg zero]
    simp only [parts, partNamed, entryNamed, List.map_append, map_chars_entry]

theorem total_entry : total (entry count name unit) = count * unit.nanos := by
  rw [entry]
  split
  case isTrue none => rw [none, Nat.zero_mul]; rfl
  case isFalse => rfl

/-- The entries of a timeout add up to it. -/
theorem total_entries (timeout : Nat) : total (entries timeout) = timeout := by
  by_cases zero : timeout = 0
  · rw [entries, if_pos zero, zero]
    rfl
  · rw [entries, if_neg zero]
    simp only [entryNamed, total_append, total_entry, TimeUnit.nanos_small, TimeUnit.nanos_large,
      yearSeconds, monthSeconds]
    omega

theorem sound_entry (named : unit? name = some unit) (letters : name.all isUnitChar = true)
    (part : ∀ nanos, unit = .small nanos → count * nanos < 1_000_000_000) :
    ∀ e ∈ entry count name unit, e.Sound := by
  intro e member
  rw [entry] at member
  split at member
  case isTrue => cases member
  case isFalse =>
      rw [List.mem_singleton] at member
      subst member
      exact ⟨named, letters, part⟩

theorem sound_entryNamed {seconds : Nat} (named : unit? name = some (.large seconds))
    (plural : unit? (name ++ ['s']) = some (.large seconds)) (letters : name.all isUnitChar = true) :
    ∀ e ∈ entryNamed count name (.large seconds), e.Sound := by
  rw [entryNamed]
  split
  case isTrue => exact sound_entry plural (by rw [List.all_append, letters]; rfl) nofun
  case isFalse => exact sound_entry named letters nofun

theorem sound_entries (timeout : Nat) : ∀ e ∈ entries timeout, e.Sound := by
  by_cases zero : timeout = 0
  · rw [entries, if_pos zero]
    rintro _ ⟨⟩
    · exact ⟨by decide, by decide, nofun⟩
    · contradiction
  · rw [entries, if_neg zero]
    have small {count nanos : Nat} (bound : count * nanos < 1_000_000_000) (other : Nat)
        (same : TimeUnit.small nanos = .small other) : count * other < 1_000_000_000 := by
      cases same
      exact bound
    simp only [List.forall_mem_append, and_assoc]
    exact ⟨sound_entryNamed (by decide) (by decide) (by decide),
      sound_entryNamed (by decide) (by decide) (by decide),
      sound_entryNamed (by decide) (by decide) (by decide),
      sound_entry (by decide) (by decide) nofun, sound_entry (by decide) (by decide) nofun,
      sound_entry (by decide) (by decide) nofun,
      sound_entry (by decide) (by decide) (small (by omega)),
      sound_entry (by decide) (by decide) (small (by omega)),
      sound_entry (by decide) (by decide) (small (by omega))⟩

theorem length_le_joinParts {row : List Entry} (sound : ∀ e ∈ row, e.Sound) :
    row.length ≤ (joinParts (row.map Entry.chars)).length := by
  induction row with
  | nil => exact Nat.zero_le _
  | cons e row ih =>
      obtain ⟨own, others⟩ := List.forall_mem_cons.mp sound
      obtain ⟨d, c, cs, chars, -⟩ := own.chars_eq
      have behind := ih others
      rw [List.map_cons, joinParts_cons, chars]
      simp only [List.length_append, List.length_cons]
      omega

/-- The text of a timeout starts with a digit and goes on. -/
theorem toList_render_eq (timeout : Nat) :
    ∃ d c cs, (render timeout).toList = d :: c :: cs ∧ Text.isDigit d = true := by
  rw [toList_render]
  have sound := sound_entries timeout
  cases row : entries timeout with
  | nil =>
      have sum := total_entries timeout
      rw [row] at sum
      rw [← sum] at row
      cases row
  | cons e row =>
      obtain ⟨d, c, cs, chars, digit⟩ := (sound e (row ▸ List.mem_cons_self)).chars_eq
      rw [List.map_cons, joinParts_cons, chars]
      exact ⟨d, c, _, rfl, digit⟩

/-- A timeout that can be held is read back from its text. -/
theorem parse?_render (fits : timeout < limit) : parse? (render timeout) = some timeout := by
  have sound := sound_entries timeout
  have sum := total_entries timeout
  obtain ⟨d, c, cs, text, digit⟩ := toList_render_eq timeout
  have several : (render timeout).toList ≠ ['0'] := by simp [text]
  have visible : ¬ (render timeout).toList.all Text.isBlank = true := by
    simp [text, not_isBlank_of_isDigit digit]
  simp only [parse?]
  rw [if_neg several, if_neg visible, toList_render,
    readParts_row sound (by rwa [sum, Nat.zero_add]) (Nat.lt_succ_of_le (length_le_joinParts sound)),
    sum, Nat.zero_add]

end Writing

end QualityGate.Time.Timeout
