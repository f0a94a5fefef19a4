import QualityGate.Expression.Lexeme

/-!
# The next lexeme of a text

What `Lexeme.next` cuts off a text is the start of it, and it is never empty. Comments and literals
of texts and bytes may hold any character, and a lexeme of another kind holds only those that its
kind admits. `next_cases` says all of this at once (`Fits`), and the other facts about the next
lexeme follow from it. One of them is that marks of references are only in comments and in literals.
-/

namespace QualityGate.Expression

/-- Whether a lexeme of the kind may hold the character. -/
def LexemeKind.admits : LexemeKind → Char → Bool
  | .blank, c => Lexeme.isBlank c
  | .comment, _ | .text, _ | .bytes, _ => true
  | .name, c | .integer, c | .unsigned, c => Text.isNameRest c
  | .quotedName, c => Lexeme.isQuotable c || c == '\x60'
  | .double, c => Text.isDigit c || ['.', 'e', 'E', '+', '-'].contains c
  | .sign, c => Lexeme.isSingle c || ['=', '&', '|'].contains c

namespace Lexeme

/-- A lexeme may be as long as its characters go on. -/
theorem cut_takeWhile (kind : LexemeKind) (p : Char → Bool) (cs : List Char) :
    cut kind (cs.takeWhile p).length cs = (⟨kind, cs.takeWhile p⟩, cs.dropWhile p) := by
  have parts : cs.takeWhile p ++ cs.dropWhile p = cs := List.takeWhile_append_dropWhile
  generalize cs.takeWhile p = front, cs.dropWhile p = back at parts ⊢
  rw [← parts, cut, List.take_left, List.drop_left]

/-! ## First characters -/

/-- Whether a lexeme of the kind may hold all of the first characters of a text. -/
def Admitted (kind : LexemeKind) (n : Nat) (cs : List Char) : Prop :=
  ∀ c ∈ cs.take n, kind.admits c = true

section Admitted

variable {kind : LexemeKind} {m n : Nat} {c : Char} {cs : List Char}

theorem Admitted.add (front : Admitted kind m cs) (back : Admitted kind n (cs.drop m)) :
    Admitted kind (m + n) cs := by
  rw [Admitted, List.take_add, List.forall_mem_append]
  exact ⟨front, back⟩

theorem admitted_zero (kind : LexemeKind) (cs : List Char) : Admitted kind 0 cs := by
  simp [Admitted]

theorem Admitted.cons (own : kind.admits c = true) (rest : Admitted kind n cs) :
    Admitted kind (n + 1) (c :: cs) := by
  rw [Admitted, List.take_succ_cons, List.forall_mem_cons]
  exact ⟨own, rest⟩

theorem admitted_takeWhile {p : Char → Bool} (each : ∀ c, p c = true → kind.admits c = true)
    (cs : List Char) : Admitted kind (cs.takeWhile p).length cs := by
  intro c member
  have cuts := congrArg (fun cut => cut.1.chars) (cut_takeWhile kind p cs)
  have run : cs.take (cs.takeWhile p).length = cs.takeWhile p := cuts
  rw [run] at member
  exact each c (List.all_eq_true.mp List.all_takeWhile c member)

/-- What a lexeme of a kind that is cut off the start of a text is known by. -/
structure Fits (kind : LexemeKind) (n : Nat) (cs : List Char) : Prop where
  positive : 0 < n
  admitted : Admitted kind n cs
  comment : kind = .comment → cs.head? = some '/'
  text : kind = .text → n = textLength cs
  quotedName : kind = .quotedName → n = quotedNameLength cs
  name : kind = .name → ∀ c ∈ (cs.drop n).head?, Text.isNameRest c = false

/-! ## Numbers -/

theorem isNameRest_of_isDigit (digit : Text.isDigit c = true) : Text.isNameRest c = true := by
  simp [Text.isNameRest, digit]

theorem isNameRest_of_isHexDigit (digit : isHexDigit c = true) : Text.isNameRest c = true := by
  simp only [isHexDigit, Text.hexValue?] at digit
  split at digit
  case isTrue decimal => exact isNameRest_of_isDigit decimal
  split at digit
  case isTrue lower =>
      have between : 'a' ≤ c ∧ c ≤ 'f' := by simpa using lower
      have letter : 'a' ≤ c ∧ c ≤ 'z' := ⟨between.1, Char.le_trans between.2 (by decide)⟩
      simp [Text.isNameRest, Text.isNameStart, Text.isLetter, letter]
  split at digit
  case isTrue upper =>
      have between : 'A' ≤ c ∧ c ≤ 'F' := by simpa using upper
      have letter : 'A' ≤ c ∧ c ≤ 'Z' := ⟨between.1, Char.le_trans between.2 (by decide)⟩
      simp [Text.isNameRest, Text.isNameStart, Text.isLetter, letter]
  case isFalse => cases digit

theorem admits_double_of_isDigit (digit : Text.isDigit c = true) :
    LexemeKind.double.admits c = true := by
  simp [LexemeKind.admits, digit]

theorem admitted_digits (cs : List Char) : Admitted .double (digitsLength cs) cs :=
  admitted_takeWhile (fun _ => admits_double_of_isDigit) cs

theorem admitted_fraction (cs : List Char) : Admitted .double (fractionLength cs) cs := by
  unfold fractionLength
  split
  · split
    · exact admitted_zero _ _
    · rw [Nat.add_comm]
      exact (admitted_digits _).cons (by decide)
  · exact admitted_zero _ _

theorem admitted_exponent (cs : List Char) : Admitted .double (exponentLength cs) cs := by
  unfold exponentLength
  split
  case h_1 e rest =>
      split
      case isTrue exponent =>
          have mark : LexemeKind.double.admits e = true := by
            rcases (by simpa using exponent : e = 'e' ∨ e = 'E') with rfl | rfl <;> decide
          split
          case h_1 s more =>
              split
              case isTrue signed =>
                  have sign : LexemeKind.double.admits s = true := by
                    rcases (by simpa using signed : s = '+' ∨ s = '-') with rfl | rfl <;> decide
                  split
                  · exact admitted_zero _ _
                  · rw [Nat.add_comm]
                    exact ((admitted_digits _).cons sign).cons mark
              case isFalse =>
                  split
                  · exact admitted_zero _ _
                  · rw [Nat.add_comm]
                    exact (admitted_digits _).cons mark
          case h_2 => exact admitted_zero _ _
      case isFalse => exact admitted_zero _ _
  case h_2 => exact admitted_zero _ _

/-- A number without fraction and exponent holds its digits, and its mark if it is unsigned. -/
theorem cutWhole_cases (positive : 0 < n) (digits : ∀ c ∈ cs.take n, Text.isNameRest c = true) :
    ∃ kind m, cutWhole n cs = cut kind m cs ∧ Fits kind m cs := by
  unfold cutWhole
  split
  case isTrue unsigned =>
      have run : Admitted .unsigned n cs := digits
      refine ⟨_, n + 1, rfl, Nat.succ_pos n, run.add ?_, nofun, nofun, nofun, nofun⟩
      cases h : cs.drop n with
      | nil => simp [Admitted]
      | cons c rest =>
          rw [h] at unsigned
          have mark : c = 'u' ∨ c = 'U' := by simpa [startsUnsigned] using unsigned
          refine (admitted_zero _ rest).cons ?_
          rcases mark with rfl | rfl <;> decide
  case isFalse => exact ⟨_, _, rfl, positive, digits, nofun, nofun, nofun, nofun⟩

/-- A number that starts with a digit is not empty. -/
theorem cutNumber_cases (cs : List Char) (digit : Text.isDigit c = true) :
    ∃ kind n, cutNumber (c :: cs) = cut kind n (c :: cs) ∧ Fits kind n (c :: cs) := by
  have positive : 0 < digitsLength (c :: cs) := by simp [digitsLength, digit]
  have digits : Admitted .integer (digitsLength (c :: cs)) (c :: cs) :=
    admitted_takeWhile (fun _ => isNameRest_of_isDigit) (c :: cs)
  have decimal := ((admitted_digits (c :: cs)).add (admitted_fraction _)).add (admitted_exponent _)
  have whole := cutWhole_cases positive digits
  unfold cutNumber
  dsimp only
  split
  case h_1 rest same =>
      split
      case isTrue =>
          have hex : Admitted .integer (rest.takeWhile isHexDigit).length rest :=
            admitted_takeWhile (fun _ => isNameRest_of_isHexDigit) rest
          have marked : Admitted .integer ((rest.takeWhile isHexDigit).length + 1 + 1)
              ('0' :: 'x' :: rest) := (hex.cons (by decide)).cons (by decide)
          rw [Nat.add_comm 2, same]
          exact cutWhole_cases (Nat.succ_pos _) marked
      case isFalse =>
          split
          · exact whole
          · exact ⟨_, _, rfl, by omega, decimal, nofun, nofun, nofun, nofun⟩
  case h_2 =>
      rw [if_neg (by decide)]
      split
      · exact whole
      · exact ⟨_, _, rfl, by omega, decimal, nofun, nofun, nofun, nofun⟩

/-! ## Names in backquotes and signs -/

/-- A name in backquotes ends with the first backquote behind its start. -/
theorem quotedNameLength_cases (found : quotedNameLength cs ≠ 0) :
    ∃ inside rest, cs = '\x60' :: inside ++ '\x60' :: rest ∧
      (∀ c ∈ inside, isQuotable c = true) ∧ quotedNameLength cs = inside.length + 2 := by
  unfold quotedNameLength at found ⊢
  split at found
  case h_1 rest =>
      dsimp only at found ⊢
      split at found
      case isTrue closed =>
          rw [if_pos closed]
          have inside : ∀ c ∈ rest.takeWhile isQuotable, isQuotable c = true :=
            List.all_eq_true.mp List.all_takeWhile
          have quote := (Bool.and_eq_true_iff.mp closed).2
          have cuts := congrArg Prod.snd (cut_takeWhile .name isQuotable rest)
          have behind : rest.drop (rest.takeWhile isQuotable).length =
            rest.dropWhile isQuotable := cuts
          rw [behind] at quote
          have parts : rest.takeWhile isQuotable ++ rest.dropWhile isQuotable = rest :=
            List.takeWhile_append_dropWhile
          cases h : rest.dropWhile isQuotable with
          | nil =>
              rw [h] at quote
              cases quote
          | cons c more =>
              rw [h] at quote parts
              obtain rfl : c = '\x60' := by simpa using quote
              exact ⟨_, more, by rw [List.cons_append, parts], inside, rfl⟩
      case isFalse => exact absurd rfl found
  case h_2 => exact absurd rfl found

theorem admitted_quotedName (found : quotedNameLength cs ≠ 0) :
    Admitted .quotedName (quotedNameLength cs) cs := by
  obtain ⟨inside, rest, rfl, quotable, length⟩ := quotedNameLength_cases found
  have run : Admitted .quotedName inside.length (inside ++ '\x60' :: rest) := by
    intro c member
    rw [List.take_left] at member
    simp [LexemeKind.admits, quotable c member]
  have last : Admitted .quotedName 1 ((inside ++ '\x60' :: rest).drop inside.length) := by
    rw [List.drop_left]
    exact (admitted_zero _ rest).cons (by decide)
  rw [length]
  exact (run.add last).cons (by decide)

theorem admitted_sign (cs : List Char) : Admitted .sign (signLength cs) cs := by
  have single {c : Char} {rest : List Char} :
      Admitted .sign (if isSingle c then 1 else 0) (c :: rest) := by
    split
    case isTrue sign => exact (admitted_zero _ rest).cons (by simp [LexemeKind.admits, sign])
    case isFalse => exact admitted_zero _ _
  unfold signLength
  split
  case h_1 a b rest =>
      split
      case isTrue pair =>
          have signs : LexemeKind.sign.admits a = true ∧ LexemeKind.sign.admits b = true := by
            have : (b = '=' ∧ (((a = '=' ∨ a = '!') ∨ a = '<') ∨ a = '>') ∨ a = '&' ∧ b = '&') ∨
                a = '|' ∧ b = '|' := by simpa [isPair] using pair
            rcases this with (⟨rfl, ((rfl | rfl) | rfl) | rfl⟩ | ⟨rfl, rfl⟩) | ⟨rfl, rfl⟩ <;>
              decide
          exact ((admitted_zero _ rest).cons signs.2).cons signs.1
      case isFalse => exact single
  case h_2 => exact single
  case h_3 => exact admitted_zero _ _

end Admitted

/-! ## The next lexeme -/

/-- How the next lexeme is cut off the start of a text. -/
theorem next_cases {cs : List Char} {l : Lexeme} {rest : List Char}
    (h : next cs = some (l, rest)) :
    cs ≠ [] ∧ ∃ kind n, cut kind n cs = (l, rest) ∧ Fits kind n cs := by
  cases cs with
  | nil => cases h
  | cons c cs =>
      refine ⟨List.cons_ne_nil c cs, ?_⟩
      unfold next at h
      dsimp only at h
      split at h
      case isTrue blank =>
          exact ⟨_, _, Option.some.inj h, by simp [blank],
            admitted_takeWhile (fun _ => id) (c :: cs), nofun, nofun, nofun, nofun⟩
      split at h
      case isTrue comment =>
          have slash : c = '/' := by
            have starts := (Bool.and_eq_true_iff.mp comment).1
            simpa using (beq_iff_eq.mp starts).symm
          refine ⟨_, _, Option.some.inj h, ?_, fun _ _ => rfl, fun _ => by rw [slash]; rfl, nofun,
            nofun, nofun⟩
          simp [slash]
      split at h
      case isTrue digit =>
          obtain ⟨kind, n, eq, fits⟩ := cutNumber_cases cs digit
          rw [eq] at h
          exact ⟨kind, n, Option.some.inj h, fits⟩
      split at h
      case isTrue fraction =>
          have point : fractionLength (c :: cs) ≠ 0 :=
            of_decide_eq_true (Bool.and_eq_true_iff.mp fraction).2
          exact ⟨_, _, Option.some.inj h, by omega,
            (admitted_fraction (c :: cs)).add (admitted_exponent _), nofun, nofun, nofun, nofun⟩
      split at h
      case isTrue text =>
          exact ⟨_, _, Option.some.inj h, by omega, fun _ _ => rfl, nofun, fun _ => rfl,
            nofun, nofun⟩
      split at h
      case isTrue bytes =>
          exact ⟨_, _, Option.some.inj h, by omega, fun _ _ => rfl, nofun, nofun, nofun, nofun⟩
      split at h
      case isTrue start =>
          have own : LexemeKind.name.admits c = true := by
            simp [LexemeKind.admits, Text.isNameRest, start]
          have run : Admitted .name (cs.takeWhile Text.isNameRest).length cs :=
            admitted_takeWhile (fun _ => id) cs
          have admitted := run.cons own
          rw [Nat.add_comm] at admitted
          have ends : ∀ d ∈ ((c :: cs).drop (1 + (cs.takeWhile Text.isNameRest).length)).head?,
              Text.isNameRest d = false := by
            have cuts := congrArg Prod.snd (cut_takeWhile .name Text.isNameRest cs)
            have behind : cs.drop (cs.takeWhile Text.isNameRest).length =
              cs.dropWhile Text.isNameRest := cuts
            intro d head
            rw [Nat.add_comm, List.drop_succ_cons, behind] at head
            have stops := List.head?_dropWhile_not Text.isNameRest cs
            rw [Option.mem_def.mp head] at stops
            exact stops
          exact ⟨_, _, Option.some.inj h, by omega, admitted, nofun, nofun, nofun, fun _ => ends⟩
      split at h
      case isTrue quoted =>
          exact ⟨_, _, Option.some.inj h, by omega, admitted_quotedName quoted, nofun, nofun,
            fun _ => rfl, nofun⟩
      split at h
      case isTrue signed =>
          exact ⟨_, _, Option.some.inj h, by omega, admitted_sign (c :: cs), nofun, nofun,
            nofun, nofun⟩
      case isFalse => cases h

section

variable {cs rest : List Char} {l : Lexeme}

/-- A lexeme and the text behind it make up the text. -/
theorem append_of_next (h : next cs = some (l, rest)) : l.chars ++ rest = cs := by
  obtain ⟨-, kind, n, cuts, -⟩ := next_cases h
  cases cuts
  exact List.take_append_drop n cs

theorem length_lt_of_next (h : next cs = some (l, rest)) : rest.length < cs.length := by
  obtain ⟨nonempty, kind, n, cuts, fits⟩ := next_cases h
  cases cuts
  have := List.length_pos_iff.mpr nonempty
  have := fits.positive
  rw [List.length_drop]
  omega

theorem chars_ne_nil_of_next (h : next cs = some (l, rest)) : l.chars ≠ [] := by
  intro none
  have parts := append_of_next h
  have shorter := length_lt_of_next h
  rw [none, List.nil_append] at parts
  rw [parts] at shorter
  exact Nat.lt_irrefl _ shorter

/-- A lexeme holds only characters that its kind admits. -/
theorem admits_of_next (h : next cs = some (l, rest)) : ∀ c ∈ l.chars, l.kind.admits c = true := by
  obtain ⟨-, kind, n, cuts, fits⟩ := next_cases h
  cases cuts
  exact fits.admitted

/-- A name in backquotes has no backquote inside. -/
theorem quotedName_of_next (h : next cs = some (l, rest)) (quoted : l.kind = .quotedName) :
    ∃ inside, l.chars = '\x60' :: inside ++ ['\x60'] ∧ ∀ c ∈ inside, isQuotable c = true := by
  obtain ⟨-, kind, n, cuts, fits⟩ := next_cases h
  cases cuts
  have length := fits.quotedName quoted
  have positive := fits.positive
  obtain ⟨inside, rest, rfl, quotable, eq⟩ := @quotedNameLength_cases cs (by omega)
  refine ⟨inside, ?_, quotable⟩
  have shape : '\x60' :: inside ++ '\x60' :: rest = ('\x60' :: inside ++ ['\x60']) ++ rest := by
    simp
  have size : n = ('\x60' :: inside ++ ['\x60']).length := by
    rw [length, eq]
    simp
  rw [shape, size]
  exact List.take_left

/-- A comment starts with a slash. -/
theorem head?_of_next_comment (h : next cs = some (l, rest)) (comment : l.kind = .comment) :
    l.chars.head? = some '/' := by
  obtain ⟨-, kind, n, cuts, fits⟩ := next_cases h
  cases cuts
  rw [List.head?_take, if_neg (Nat.ne_of_gt fits.positive)]
  exact fits.comment comment

/-- A name goes on as long as it can. -/
theorem head?_of_next_name (h : next cs = some (l, rest)) (name : l.kind = .name) :
    ∀ c ∈ rest.head?, Text.isNameRest c = false := by
  obtain ⟨-, kind, n, cuts, fits⟩ := next_cases h
  cases cuts
  exact fits.name name

/-- A text literal is as long as it can be. -/
theorem text_of_next (h : next cs = some (l, rest)) (text : l.kind = .text) :
    textLength cs ≠ 0 ∧ l.chars = cs.take (textLength cs) ∧ rest = cs.drop (textLength cs) := by
  obtain ⟨-, kind, n, cuts, fits⟩ := next_cases h
  cases cuts
  have length := fits.text text
  have positive := fits.positive
  rw [← length]
  exact ⟨by omega, rfl, rfl⟩

/-- Only in comments and in literals of texts and bytes there are marks of references. -/
theorem mark_not_mem (h : next cs = some (l, rest)) (comment : l.kind ≠ .comment)
    (text : l.kind ≠ .text) (bytes : l.kind ≠ .bytes) : '$' ∉ l.chars := by
  intro mark
  have admits := admits_of_next h '$' mark
  cases kind : l.kind with
  | comment => exact comment kind
  | text => exact text kind
  | bytes => exact bytes kind
  | _ =>
      rw [kind] at admits
      exact absurd admits (by decide)

end

end Lexeme

end QualityGate.Expression
