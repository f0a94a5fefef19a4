import QualityGate.Proofs.Expression.Token

/-!
# Reading formulas of connectives

How tokens that are put together from operands, `&&`, `||` and parentheses are read as a term, and
what that term means. What terms mean is a parameter (`Meaning`): some relation between terms and
values that `&&` and `||` carry over to operations on the values. Both operations are associative,
so it does not matter that chains of one connective are read from the left.

The tokens of an operand, of a conjunction and of a disjunction are described by `Operand`,
`Conjunction` and `Disjunction`, each with the value that is meant. `parse?_of_disjunction` is the
form in which other modules use them.
-/

namespace QualityGate.Expression

/-! ## Readers before what stops them -/

/-- Whether a reader reads some lexemes as a value, with whatever follows them: nothing, or one of
the lexemes that stop it. -/
def Reads {α : Type} (reader : Reader α) (stops : List Lexeme) (ls : List Lexeme) (a : α) : Prop :=
  ∀ rest, (∀ l ∈ rest.head?, l ∈ stops) → reader (ls ++ rest) = some (a, rest)

theorem Reads.mono {α : Type} {reader : Reader α} {stops stops' ls : List Lexeme} {a : α}
    (reads : Reads reader stops ls a) (fewer : ∀ l ∈ stops', l ∈ stops) :
    Reads reader stops' ls a := by
  intro rest follows
  refine reads rest fun l head => ?_
  exact fewer l (follows l head)

/-- The lexemes that may follow an operand. -/
def operandStops : List Lexeme := [sign ")", sign ",", sign "||", sign "&&"]

/-- The lexemes that may follow a conjunction. -/
def conjunctionStops : List Lexeme := [sign ")", sign ",", sign "||"]

/-- The lexemes that may follow a disjunction. -/
def disjunctionStops : List Lexeme := [sign ")", sign ","]

/-- Reads a comparison, which may be a single operand. -/
def readComparison (term : Reader Term) : Reader Term :=
  readJoined (readJoined (readJoined (readUnary term) product?) sum?) relation?

/-- Reads a conjunction, which may be a single comparison. -/
def readConjunction (term : Reader Term) : Reader Term :=
  readJoined (readComparison term) conjunction?

section Chains

variable {one : Reader Term} {join? : Lexeme → Option (Term → Term → Term)}
  {stops ls : List Lexeme} {t : Term}

/-- A chain ends where no operator follows. -/
theorem readChain_of_stop {fuel : Nat} {rest : List Lexeme}
    (stop : ∀ l ∈ rest.head?, join? l = none) :
    readChain one join? fuel t rest = some (t, rest) := by
  cases fuel with
  | zero => rfl
  | succ fuel =>
      cases rest with
      | nil => rfl
      | cons l rest => rw [readChain, stop l rfl]

/-- A form without operators behind it is read as it is. -/
theorem Reads.joined (reads : Reads one stops ls t) (stop : ∀ l ∈ stops, join? l = none) :
    Reads (readJoined one join?) stops ls t := by
  intro rest follows
  rw [readJoined, reads rest follows, Option.bind_eq_bind, Option.bind_some]
  exact readChain_of_stop fun l head => stop l (follows l head)

end Chains

/-- A member is a comparison by itself. -/
theorem Reads.comparison {term : Reader Term} {ls : List Lexeme} {t : Term}
    (reads : Reads (readUnary term) operandStops ls t) :
    Reads (readComparison term) operandStops ls t :=
  ((reads.joined (by decide)).joined (by decide)).joined (by decide)

/-- A comparison is a disjunction by itself. -/
theorem Reads.disjunction {term : Reader Term} {ls : List Lexeme} {t : Term}
    (reads : Reads (readComparison term) operandStops ls t) :
    Reads (readDisjunction term) disjunctionStops ls t := by
  have conjunction : Reads (readConjunction term) conjunctionStops ls t :=
    (reads.mono (by decide)).joined (by decide)
  exact (conjunction.mono (by decide)).joined (by decide)

/-- Without a question mark behind it, a disjunction is a whole term. -/
theorem Reads.term {n : Nat} {ls : List Lexeme} {t : Term}
    (reads : Reads (readDisjunction (readTerm n)) disjunctionStops ls t) :
    Reads (readTerm (n + 1)) disjunctionStops ls t := by
  intro rest follows
  rw [readTerm, reads rest follows, Option.bind_eq_bind, Option.bind_some]
  cases rest with
  | nil => rfl
  | cons l rest =>
      have other : ¬ l = sign "?" := by
        rintro rfl
        exact absurd (follows _ rfl) (by decide)
      simp only [readExactly, if_neg other]
      rfl

/-! ## Operands -/

/-- A lexeme that stops no operand does not follow one. -/
theorem readExactly_of_follows {l : Lexeme} {rest : List Lexeme}
    (follows : ∀ l ∈ rest.head?, l ∈ operandStops) (other : l ∉ operandStops) :
    readExactly l rest = none := by
  cases rest with
  | nil => rfl
  | cons x rest =>
      refine if_neg fun eq : x = l => other ?_
      rw [← eq]
      exact follows x rfl

/-- Members end before what stops an operand. -/
theorem readMembers_of_follows {term : Reader Term} {fuel : Nat} {t : Term} {rest : List Lexeme}
    (follows : ∀ l ∈ rest.head?, l ∈ operandStops) :
    readMembers term fuel t rest = some (t, rest) := by
  cases fuel with
  | zero => rfl
  | succ fuel =>
      cases rest with
      | nil => rfl
      | cons l rest =>
          have point : l ≠ sign "." := fun eq => absurd (eq ▸ follows l rfl) (by decide)
          have bracket : l ≠ sign "[" := fun eq => absurd (eq ▸ follows l rfl) (by decide)
          rw [readMembers, if_neg point, if_neg bracket]

/-- An operand without members is read as it is, before what stops it. -/
theorem readMember_of_primary {term : Reader Term} {ls rest : List Lexeme} {t : Term}
    (primary : readPrimary term ls = some (t, rest))
    (follows : ∀ l ∈ rest.head?, l ∈ operandStops) :
    readMember term ls = some (t, rest) := by
  simp only [readMember, primary, Option.bind_eq_bind, Option.bind_some]
  exact readMembers_of_follows follows

/-- So it is without a sign before it. -/
theorem reads_primary {term : Reader Term} {l : Lexeme} {ls : List Lexeme} {t : Term}
    (noNot : l ≠ sign "!") (noMinus : l ≠ sign "-")
    (primary : Reads (readPrimary term) operandStops (l :: ls) t) :
    Reads (readUnary term) operandStops (l :: ls) t := by
  intro rest follows
  have read := primary rest follows
  rw [List.cons_append] at read ⊢
  rw [readUnary, if_neg noNot, if_neg noMinus]
  exact readMember_of_primary read follows

/-- What a name that is not reserved starts is no literal. -/
theorem readLiteral_of_name {cs : List Char} (free : isReserved cs = false) (rest : List Lexeme) :
    readLiteral (⟨.name, cs⟩ :: rest) = none := by
  obtain ⟨-, true, false, null⟩ : cs ≠ ['i', 'n'] ∧ cs ≠ ['t', 'r', 'u', 'e'] ∧
      cs ≠ ['f', 'a', 'l', 's', 'e'] ∧ cs ≠ ['n', 'u', 'l', 'l'] := by
    simpa [isReserved] using free
  simp [readLiteral, word, true, false, null]

theorem readName_of_name {cs : List Char} (free : isReserved cs = false) (rest : List Lexeme) :
    readName (⟨.name, cs⟩ :: rest) = some (String.ofList cs, rest) := by
  simp [readName, free]

/-- What starts with a name that is not reserved is a reference, unless it is a message. -/
theorem readPrimary_of_not_message {term : Reader Term} {cs : List Char} {rest : List Lexeme}
    (free : isReserved cs = false) (noMessage : readMessage term (⟨.name, cs⟩ :: rest) = none) :
    readPrimary term (⟨.name, cs⟩ :: rest) = readReference term "" (⟨.name, cs⟩ :: rest) := by
  have noLiteral := readLiteral_of_name free rest
  simp [readPrimary, sign, noLiteral, noMessage]

/-- It is no message if no brace and no point follows. -/
theorem readPrimary_of_name {term : Reader Term} {cs : List Char} {rest : List Lexeme}
    (free : isReserved cs = false) (noPoint : readExactly (sign ".") rest = none)
    (noBrace : readExactly (sign "\x7b") rest = none) :
    readPrimary term (⟨.name, cs⟩ :: rest) = readReference term "" (⟨.name, cs⟩ :: rest) := by
  have name := readName_of_name free rest
  refine readPrimary_of_not_message free ?_
  simp [readMessage, readDotted, name, noPoint, noBrace]

/-- A name that is not reserved is read as itself. -/
theorem reads_name {term : Reader Term} {cs : List Char} (free : isReserved cs = false) :
    Reads (readUnary term) operandStops [⟨.name, cs⟩] (.name (String.ofList cs)) := by
  refine reads_primary (by simp [sign]) (by simp [sign]) fun rest follows => ?_
  have noPoint := readExactly_of_follows (l := sign ".") follows (by decide)
  have noBrace := readExactly_of_follows (l := sign "\x7b") follows (by decide)
  have noCall := readExactly_of_follows (l := sign "(") follows (by decide)
  rw [List.singleton_append, readPrimary_of_name free noPoint noBrace]
  simp only [readReference, readName_of_name free, Option.bind_eq_bind, Option.bind_some, noCall]
  rfl

/-- A literal that is a single lexeme is read as it is. -/
theorem reads_literal {term : Reader Term} {l : Lexeme} {t : Term} (noSign : l.kind ≠ .sign)
    (read : ∀ rest, readLiteral (l :: rest) = some (t, rest)) :
    Reads (readUnary term) operandStops [l] t := by
  have other (s : String) : l ≠ sign s := by
    rintro rfl
    exact noSign rfl
  refine reads_primary (other _) (other _) fun rest _ => ?_
  simp [readPrimary, other, read]

/-- A text literal is read as the text that it denotes. -/
theorem reads_text {term : Reader Term} {cs : List Char} {text : String}
    (denotes : Literal.text? cs = some text) :
    Reads (readUnary term) operandStops [⟨.text, cs⟩] (.literal (.text text)) :=
  reads_literal nofun fun rest => by simp [readLiteral, denotes]

/-- A minus sign before a number belongs to it. -/
theorem reads_negative {term : Reader Term} {l : Lexeme} {t : Term}
    (number : l.kind = .integer ∨ l.kind = .double)
    (read : ∀ rest, readNegative (sign "-" :: l :: rest) = some (t, rest)) :
    Reads (readUnary term) operandStops [sign "-", l] t := by
  intro rest follows
  have starts : startsNumber (l :: rest) = true := by
    rcases number with kind | kind <;> simp [startsNumber, kind]
  have shape : [sign "-", l] ++ rest = sign "-" :: l :: rest := rfl
  rw [shape, readUnary, if_neg (by decide), if_pos rfl, if_pos starts]
  exact readMember_of_primary (read rest) follows

/-- Two arguments and the parenthesis behind them are read as the arguments of a call. -/
theorem readArguments_pair {term : Reader Term} {ls ks : List Lexeme} {t u : Term}
    (first : Reads term disjunctionStops ls t) (second : Reads term disjunctionStops ks u)
    (starts : ∀ rest, readExactly (sign ")") (ls ++ rest) = none) (rest : List Lexeme) :
    readArguments term (ls ++ sign "," :: ks ++ [sign ")"] ++ rest) = some ([t, u], rest) := by
  have shape : ls ++ sign "," :: ks ++ [sign ")"] ++ rest =
      ls ++ sign "," :: (ks ++ sign ")" :: rest) := by simp
  have second := second (sign ")" :: rest) (by simp [disjunctionStops])
  have first := first (sign "," :: (ks ++ sign ")" :: rest)) (by simp [disjunctionStops])
  obtain ⟨fuel, enough⟩ :
      ∃ n, (ls ++ sign "," :: (ks ++ sign ")" :: rest)).length = n + 1 + 1 :=
    ⟨ls.length + ks.length + rest.length, by simp; omega⟩
  have list : readCommaList term (fuel + 1 + 1) (ls ++ sign "," :: (ks ++ sign ")" :: rest)) =
      some ([t, u], sign ")" :: rest) := by
    have last : readCommaList term (fuel + 1) (ks ++ sign ")" :: rest) =
        some ([u], sign ")" :: rest) := by
      rw [readCommaList, second]
      rfl
    rw [readCommaList, first]
    simp only [Option.bind_eq_bind, Option.bind_some, readExactly, if_true, last]
    rfl
  rw [shape, readArguments, starts, enough, list]
  rfl

/-- Only `has` with one argument has a meaning of its own. -/
theorem makeCall_of_other {f : String} {args : List Term}
    (other : ¬ (f = "has" ∧ args.length = 1)) : makeCall f args = some (.call f args) := by
  unfold makeCall
  split
  case h_4 => rfl
  all_goals exact absurd ⟨rfl, rfl⟩ other

/-- The name of a function and its arguments in parentheses are read as a call. -/
theorem reads_call {term : Reader Term} {cs : List Char} {ls : List Lexeme} {args : List Term}
    {t : Term} (free : isReserved cs = false) (made : makeCall (String.ofList cs) args = some t)
    (arguments : ∀ rest, readArguments term (ls ++ rest) = some (args, rest)) :
    Reads (readUnary term) operandStops (⟨.name, cs⟩ :: sign "(" :: ls) t := by
  refine reads_primary (by simp [sign]) (by simp [sign]) fun rest _ => ?_
  have shape : ⟨.name, cs⟩ :: sign "(" :: ls ++ rest =
      ⟨.name, cs⟩ :: sign "(" :: (ls ++ rest) := rfl
  rw [shape, readPrimary_of_name free rfl rfl, readReference]
  simp only [readName_of_name free, Option.bind_eq_bind, Option.bind_some, readExactly, if_true,
    arguments, String.empty_append, made]
  rfl

/-- An argument and the parenthesis behind it are read as the arguments of a call. -/
theorem readArguments_single {term : Reader Term} {ls : List Lexeme} {t : Term}
    (reads : Reads term disjunctionStops ls t)
    (starts : ∀ rest, readExactly (sign ")") (ls ++ rest) = none) (rest : List Lexeme) :
    readArguments term (ls ++ [sign ")"] ++ rest) = some ([t], rest) := by
  have shape : ls ++ [sign ")"] ++ rest = ls ++ sign ")" :: rest := by simp
  have only := reads (sign ")" :: rest) (by simp [disjunctionStops])
  obtain ⟨fuel, enough⟩ : ∃ n, (ls ++ sign ")" :: rest).length = n + 1 :=
    ⟨ls.length + rest.length, by simp; omega⟩
  have list : readCommaList term (fuel + 1) (ls ++ sign ")" :: rest) =
      some ([t], sign ")" :: rest) := by
    rw [readCommaList, only]
    rfl
  rw [shape, readArguments, starts, enough, list]
  rfl

/-- A name before the call of a method is read as itself: only a brace behind both names would make
them the kind of a message. -/
theorem readPrimary_before_call {term : Reader Term} {cs ds : List Char}
    (free : isReserved cs = false) (free' : isReserved ds = false) (rest : List Lexeme) :
    readPrimary term (⟨.name, cs⟩ :: sign "." :: ⟨.name, ds⟩ :: sign "(" :: rest) =
      some (.name (String.ofList cs), sign "." :: ⟨.name, ds⟩ :: sign "(" :: rest) := by
  have noMessage :
      readMessage term (⟨.name, cs⟩ :: sign "." :: ⟨.name, ds⟩ :: sign "(" :: rest) = none := by
    simp [readMessage, readDotted, readName_of_name, free, free', readExactly, sign]
  rw [readPrimary_of_not_message free noMessage, readReference]
  simp only [readName_of_name free, Option.bind_eq_bind, Option.bind_some]
  rfl

/-- The call of a method is a member. -/
theorem readMembers_call {term : Reader Term} {fuel : Nat} {cs : List Char} {ls rest : List Lexeme}
    {args : List Term} {t u : Term} (free : isReserved cs = false)
    (made : makeInvoke t (String.ofList cs) args = some u)
    (arguments : readArguments term ls = some (args, rest)) :
    readMembers term (fuel + 1) t (sign "." :: ⟨.name, cs⟩ :: sign "(" :: ls) =
      readMembers term fuel u rest := by
  rw [readMembers, if_pos rfl, readName_of_name free]
  simp only [Option.bind_some, readExactly, if_true, Option.map_some, arguments,
    Option.bind_eq_bind, made]

/-- A name, a point, and the name of a method with its arguments are read as the call of the
method. -/
theorem reads_invoke {term : Reader Term} {cs ds : List Char} {ls : List Lexeme}
    {args : List Term} {t : Term} (free : isReserved cs = false) (free' : isReserved ds = false)
    (made : makeInvoke (.name (String.ofList cs)) (String.ofList ds) args = some t)
    (arguments : ∀ rest, readArguments term (ls ++ rest) = some (args, rest)) :
    Reads (readUnary term) operandStops
      (⟨.name, cs⟩ :: sign "." :: ⟨.name, ds⟩ :: sign "(" :: ls) t := by
  intro rest follows
  have shape : ⟨.name, cs⟩ :: sign "." :: ⟨.name, ds⟩ :: sign "(" :: ls ++ rest =
      ⟨.name, cs⟩ :: sign "." :: ⟨.name, ds⟩ :: sign "(" :: (ls ++ rest) := rfl
  rw [shape, readUnary, if_neg (by simp [sign]), if_neg (by simp [sign]), readMember,
    readPrimary_before_call free free', Option.bind_eq_bind, Option.bind_some]
  exact (readMembers_call free' made (arguments rest)).trans (readMembers_of_follows follows)

/-- What stands in parentheses is read as a term of its own. -/
theorem readPrimary_group {n : Nat} {ls : List Lexeme} {t : Term}
    (reads : Reads (readDisjunction (readTerm n)) disjunctionStops ls t) :
    Reads (readPrimary (readTerm (n + 1))) operandStops (sign "(" :: ls ++ [sign ")"]) t := by
  intro rest follows
  have inner := reads.term (sign ")" :: rest) (by simp [disjunctionStops])
  have shape : sign "(" :: ls ++ [sign ")"] ++ rest = sign "(" :: (ls ++ sign ")" :: rest) := by
    simp
  rw [shape]
  simp only [readPrimary, if_true, inner, Option.bind_eq_bind, Option.bind_some]
  rfl

theorem reads_group {n : Nat} {ls : List Lexeme} {t : Term}
    (reads : Reads (readDisjunction (readTerm n)) disjunctionStops ls t) :
    Reads (readUnary (readTerm (n + 1))) operandStops (sign "(" :: ls ++ [sign ")"]) t :=
  reads_primary (by decide) (by decide) (readPrimary_group reads)

/-- The sign of negations before parentheses negates what stands in them. -/
theorem reads_negation {n : Nat} {ls : List Lexeme} {t : Term}
    (reads : Reads (readDisjunction (readTerm n)) disjunctionStops ls t) :
    Reads (readUnary (readTerm (n + 1))) operandStops
      (sign "!" :: sign "(" :: ls ++ [sign ")"]) (.not t) := by
  intro rest follows
  have member := readMember_of_primary (readPrimary_group reads rest follows) follows
  have run : dropRun (sign "!") (sign "(" :: ls ++ [sign ")"] ++ rest) =
      sign "(" :: ls ++ [sign ")"] ++ rest :=
    List.dropWhile_cons_of_neg (by decide)
  have shape : sign "!" :: sign "(" :: ls ++ [sign ")"] ++ rest =
      sign "!" :: (sign "(" :: ls ++ [sign ")"] ++ rest) := rfl
  rw [shape, readUnary, if_pos rfl, run, member]
  rfl

/-- A text whose tokens are read as a disjunction is read as the same term. -/
theorem parse?_of_reads {text : String} {ls : List Lexeme} {t : Term}
    (tokens : Lexeme.tokens? text.toList = some ls)
    (reads : Reads (readDisjunction (readTerm ls.length)) disjunctionStops ls t) :
    parse? text = some t := by
  obtain ⟨lexemes, cuts, rfl⟩ := Option.map_eq_some_iff.mp tokens
  have start := reads [] (by simp)
  rw [List.append_nil] at start
  simp [parse?, cuts, readTerm, start, readExactly]

/-! ## What formulas mean -/

/-- What terms mean, if it is enough to know what the sides of a connective mean. -/
structure Meaning (β : Type) where
  /-- Whether a term means a value. -/
  means : Term → β → Prop
  conj : β → β → β
  disj : β → β → β
  conj_assoc : ∀ a b c, conj (conj a b) c = conj a (conj b c)
  disj_assoc : ∀ a b c, disj (disj a b) c = disj a (disj b c)
  and_means : ∀ {t u a b}, means t a → means u b → means (.and t u) (conj a b)
  or_means : ∀ {t u a b}, means t a → means u b → means (.or t u) (disj a b)

namespace Meaning

variable {β : Type} (m : Meaning β)

/-- Lexemes that a reader of terms of any greater depth reads as a term with the given meaning. -/
def ReadBy (reader : Reader Term → Reader Term) (stops : List Lexeme) (ls : List Lexeme) (b : β) :
    Prop :=
  ∃ t, m.means t b ∧ ∀ n, ls.length ≤ n → Reads (reader (readTerm n)) stops ls t

/-- The tokens of operands, each of them behind a sign. -/
def behind (op : Lexeme) (others : List (List Lexeme × β)) : List Lexeme :=
  others.flatMap fun o => op :: o.1

/-- The value of operands joined from the left to a first value. -/
def joinedTo (join : β → β → β) (a : β) (others : List (List Lexeme × β)) : β :=
  others.foldl (fun a o => join a o.2) a

/-- Operands with a sign between them, and their values joined. -/
def Joined (op : Lexeme) (join : β → β → β) (part : List Lexeme → β → Prop) (ls : List Lexeme)
    (b : β) : Prop :=
  ∃ (ks : List Lexeme) (a : β) (others : List (List Lexeme × β)), part ks a ∧
    (∀ o ∈ others, part o.1 o.2) ∧ ls = ks ++ behind op others ∧ b = joinedTo join a others

/-- The tokens of an operand. -/
def Operand (ls : List Lexeme) (b : β) : Prop := m.ReadBy readComparison operandStops ls b

/-- The tokens of operands joined by `&&`. -/
def Conjunction (ls : List Lexeme) (b : β) : Prop := Joined (sign "&&") m.conj m.Operand ls b

/-- The tokens of conjunctions joined by `||`. -/
def Disjunction (ls : List Lexeme) (b : β) : Prop := Joined (sign "||") m.disj m.Conjunction ls b

variable {m}

section Joining

variable {op : Lexeme} {join : β → β → β} {part : List Lexeme → β → Prop} {ls ks : List Lexeme}
  {a b : β}

/-- A single operand needs no sign. -/
theorem Joined.single (only : part ls b) : Joined op join part ls b :=
  ⟨ls, b, [], only, by simp, by simp [behind], rfl⟩

/-- Joining goes on from a value that is joined already. -/
theorem joinedTo_join (assoc : ∀ a b c, join (join a b) c = join a (join b c))
    (others : List (List Lexeme × β)) :
    joinedTo join (join a b) others = join a (joinedTo join b others) := by
  induction others generalizing b with
  | nil => rfl
  | cons o others ih =>
      calc joinedTo join (join (join a b) o.2) others
          = joinedTo join (join a (join b o.2)) others := by rw [assoc]
        _ = join a (joinedTo join (join b o.2) others) := ih

/-- Operands on both sides of a sign are operands joined by it. -/
theorem Joined.append (assoc : ∀ a b c, join (join a b) c = join a (join b c))
    (left : Joined op join part ls a) (right : Joined op join part ks b) :
    Joined op join part (ls ++ op :: ks) (join a b) := by
  obtain ⟨ls, a, others, part₁, parts₁, rfl, rfl⟩ := left
  obtain ⟨ks, b, more, part₂, parts₂, rfl, rfl⟩ := right
  refine ⟨ls, a, others ++ (ks, b) :: more, part₁, ?_, by simp [behind], ?_⟩
  · rw [List.forall_mem_append, List.forall_mem_cons]
    exact ⟨parts₁, part₂, parts₂⟩
  · rw [← joinedTo_join assoc, joinedTo, joinedTo, joinedTo, List.foldl_append, List.foldl_cons]

end Joining

section Chains

variable {op : Lexeme} {join : β → β → β} {joinTerms : Term → Term → Term}
  {one : Reader Term → Reader Term} {join? : Lexeme → Option (Term → Term → Term)}
  {stops stops' ls : List Lexeme} {a b : β} {others : List (List Lexeme × β)}

/-- Behind an operand follows the next sign or the end. -/
theorem follows_behind (others : List (List Lexeme × β)) {rest : List Lexeme} (goesOn : op ∈ stops)
    (weaker : ∀ l ∈ stops', l ∈ stops) (follows : ∀ l ∈ rest.head?, l ∈ stops') :
    ∀ l ∈ (behind op others ++ rest).head?, l ∈ stops := by
  cases others with
  | nil => exact fun l head => weaker l (follows l head)
  | cons o others =>
      rintro l ⟨⟩
      exact goesOn

/-- Operands behind their signs are read one after the other, and joined from the left. -/
theorem readChain_behind
    (means : ∀ {t u a b}, m.means t a → m.means u b → m.means (joinTerms t u) (join a b))
    (joins : join? op = some joinTerms) (goesOn : op ∈ stops) (weaker : ∀ l ∈ stops', l ∈ stops)
    (ends : ∀ l ∈ stops', join? l = none) (parts : ∀ o ∈ others, m.ReadBy one stops o.1 o.2)
    {t : Term} (meant : m.means t a) :
    ∃ u, m.means u (joinedTo join a others) ∧
      ∀ n fuel, (behind op others).length ≤ n → others.length ≤ fuel →
        ∀ rest, (∀ l ∈ rest.head?, l ∈ stops') →
          readChain (one (readTerm n)) join? fuel t (behind op others ++ rest) =
            some (u, rest) := by
  induction others generalizing t a with
  | nil =>
      exact ⟨t, meant, fun n fuel _ _ rest follows =>
        readChain_of_stop fun l head => ends l (follows l head)⟩
  | cons o others ih =>
      obtain ⟨⟨u, meant', reads⟩, parts⟩ := List.forall_mem_cons.mp parts
      obtain ⟨v, joined, chain⟩ := ih parts (means meant meant')
      refine ⟨v, joined, fun n fuel deep enough rest follows => ?_⟩
      have shape : behind op (o :: others) = op :: (o.1 ++ behind op others) := rfl
      rw [shape, List.length_cons, List.length_append] at deep
      obtain ⟨fuel, rfl⟩ : ∃ k, fuel = k + 1 := ⟨fuel - 1, by simp at enough; omega⟩
      have next := reads n (by omega) _ (follows_behind others goesOn weaker follows)
      rw [shape, List.cons_append, readChain]
      simp only [joins, List.append_assoc, next, Option.bind_eq_bind, Option.bind_some]
      exact chain n fuel (by omega) (by simpa using enough) rest follows

theorem length_le_length_behind : others.length ≤ (behind op others).length := by
  induction others with
  | nil => exact Nat.le_refl 0
  | cons o others ih =>
      have shape : behind op (o :: others) = op :: (o.1 ++ behind op others) := rfl
      rw [shape, List.length_cons, List.length_cons, List.length_append]
      omega

/-- Joined operands are read as a term that means their joined values. -/
theorem Joined.readBy
    (means : ∀ {t u a b}, m.means t a → m.means u b → m.means (joinTerms t u) (join a b))
    (joins : join? op = some joinTerms) (goesOn : op ∈ stops) (weaker : ∀ l ∈ stops', l ∈ stops)
    (ends : ∀ l ∈ stops', join? l = none)
    (joined : Joined op join (m.ReadBy one stops) ls b) :
    m.ReadBy (fun term => readJoined (one term) join?) stops' ls b := by
  obtain ⟨ks, a, others, ⟨t, meant, reads⟩, parts, rfl, rfl⟩ := joined
  obtain ⟨u, meant', chain⟩ := readChain_behind means joins goesOn weaker ends parts meant
  refine ⟨u, meant', fun n deep rest follows => ?_⟩
  rw [List.length_append] at deep
  have start := reads n (by omega) _ (follows_behind others goesOn weaker follows)
  have enough : others.length ≤ (behind op others ++ rest).length := by
    rw [List.length_append]
    exact Nat.le_add_right_of_le length_le_length_behind
  simp only [readJoined, List.append_assoc, start, Option.bind_eq_bind, Option.bind_some]
  exact chain n _ (by omega) enough rest follows

end Chains

/-! ## Putting formulas together -/

variable {ls ks : List Lexeme} {a b : β}

/-- Operands with a sign between them are so in terms of anything else that holds of each. -/
theorem Joined.mono {op : Lexeme} {join : β → β → β} {part part' : List Lexeme → β → Prop}
    (weaker : ∀ ls b, part ls b → part' ls b) (h : Joined op join part ls b) :
    Joined op join part' ls b := by
  obtain ⟨ks, a, others, first, parts, tokens, value⟩ := h
  refine ⟨ks, a, others, weaker _ _ first, ?_, tokens, value⟩
  intro o member
  exact weaker _ _ (parts o member)

/-- A disjunction is read as a term that means its value. -/
theorem Disjunction.readBy (h : m.Disjunction ls b) :
    m.ReadBy readDisjunction disjunctionStops ls b := by
  have conjunctions (ks : List Lexeme) (a : β) (h : m.Conjunction ks a) :
      m.ReadBy readConjunction conjunctionStops ks a :=
    have joins : conjunction? (sign "&&") = some .and := rfl
    Joined.readBy m.and_means joins (by decide) (by decide) (by decide) h
  have joins : disjunction? (sign "||") = some .or := rfl
  exact Joined.readBy m.or_means joins (by decide) (by decide) (by decide) (h.mono conjunctions)

/-- A name is an operand. -/
theorem Operand.name {cs : List Char} (free : isReserved cs = false)
    (meant : m.means (.name (String.ofList cs)) b) : m.Operand [⟨.name, cs⟩] b :=
  ⟨_, meant, fun _ _ => (reads_name free).comparison⟩

/-- A function that is called with a name and a text literal is an operand. -/
theorem Operand.call {f x cs : List Char} {text : String} (freeFunction : isReserved f = false)
    (freeName : isReserved x = false) (denotes : Literal.text? cs = some text)
    (meant : m.means (.call (String.ofList f) [.name (String.ofList x), .literal (.text text)]) b) :
    m.Operand [⟨.name, f⟩, sign "(", ⟨.name, x⟩, sign ",", ⟨.text, cs⟩, sign ")"] b := by
  refine ⟨_, meant, fun n deep => ?_⟩
  obtain ⟨n, rfl⟩ : ∃ k, n = k + 1 := ⟨n - 1, by simp at deep; omega⟩
  have name : Reads (readTerm (n + 1)) disjunctionStops [⟨.name, x⟩] (.name (String.ofList x)) :=
    (reads_name freeName).comparison.disjunction.term
  have literal : Reads (readTerm (n + 1)) disjunctionStops [⟨.text, cs⟩] (.literal (.text text)) :=
    (reads_text denotes).comparison.disjunction.term
  have starts (rest : List Lexeme) : readExactly (sign ")") ([⟨.name, x⟩] ++ rest) = none := by
    simp [readExactly, sign]
  have arguments := readArguments_pair name literal starts
  exact (reads_call freeFunction (makeCall_of_other (by simp)) arguments).comparison

/-- A function that is called without arguments is an operand. -/
theorem Operand.emptyCall {f : List Char} (free : isReserved f = false)
    (meant : m.means (.call (String.ofList f) []) b) :
    m.Operand [⟨.name, f⟩, sign "(", sign ")"] b := by
  refine ⟨_, meant, fun n _ => ?_⟩
  have arguments (rest : List Lexeme) :
      readArguments (readTerm n) ([sign ")"] ++ rest) = some ([], rest) := rfl
  exact (reads_call free (makeCall_of_other (by simp)) arguments).comparison

/-- So is a negated disjunction in parentheses. -/
theorem Operand.negation (h : m.Disjunction ls a) (meant : ∀ t, m.means t a → m.means (.not t) b) :
    m.Operand (sign "!" :: sign "(" :: ls ++ [sign ")"]) b := by
  obtain ⟨t, means, reads⟩ := h.readBy
  refine ⟨.not t, meant t means, fun n deep => ?_⟩
  simp only [List.length_append, List.length_cons] at deep
  obtain ⟨n, rfl⟩ : ∃ k, n = k + 1 := ⟨n - 1, by omega⟩
  exact (reads_negation (reads n (by omega))).comparison

/-- A disjunction in parentheses is an operand. -/
theorem Operand.group (h : m.Disjunction ls b) :
    m.Operand (sign "(" :: ls ++ [sign ")"]) b := by
  obtain ⟨t, meant, reads⟩ := h.readBy
  refine ⟨t, meant, fun n deep => ?_⟩
  simp only [List.length_append, List.length_cons] at deep
  obtain ⟨n, rfl⟩ : ∃ k, n = k + 1 := ⟨n - 1, by omega⟩
  exact (reads_group (reads n (by omega))).comparison

/-- A text whose tokens make up a disjunction is read as a term that means its value. -/
theorem parse?_of_disjunction {text : String} (tokens : Lexeme.tokens? text.toList = some ls)
    (h : m.Disjunction ls b) : ∃ t, parse? text = some t ∧ m.means t b := by
  obtain ⟨t, meant, reads⟩ := h.readBy
  exact ⟨t, parse?_of_reads tokens (reads _ (Nat.le_refl _)), meant⟩

/-! ## Texts of formulas -/

/-- Whether a text is cut into tokens that make up a part with the given value. -/
def CutAs (part : List Lexeme → β → Prop) (cs : List Char) (b : β) : Prop :=
  ∃ ls, Lexeme.CutsInto cs ls ∧ part ls b

section Texts

variable {part : List Lexeme → β → Prop} {cs ds gap : List Char}

theorem CutAs.gap_before (gaps : Lexeme.Gap gap) (h : CutAs part cs b) :
    CutAs part (gap ++ cs) b := by
  obtain ⟨ls, cuts, tokens⟩ := h
  exact ⟨ls, cuts.gap_before gaps, tokens⟩

theorem CutAs.gap_behind (gaps : Lexeme.Gap gap) (h : CutAs part cs b) :
    CutAs part (cs ++ gap) b := by
  obtain ⟨ls, cuts, tokens⟩ := h
  exact ⟨ls, cuts.gap_behind gaps, tokens⟩

theorem CutAs.group (h : CutAs m.Disjunction cs b) : CutAs m.Operand ('(' :: cs ++ [')']) b := by
  obtain ⟨ls, cuts, tokens⟩ := h
  exact ⟨_, cuts.group, Operand.group tokens⟩

theorem CutAs.negation (between : Lexeme.Gap gap) (h : CutAs m.Disjunction cs a)
    (meant : ∀ t, m.means t a → m.means (.not t) b) :
    CutAs m.Operand ('!' :: gap ++ '(' :: cs ++ [')']) b := by
  obtain ⟨ls, cuts, tokens⟩ := h
  exact ⟨_, cuts.negation between, Operand.negation tokens meant⟩

/-- A single part is joined by either sign. -/
theorem CutAs.single {op : Lexeme} {join : β → β → β} (h : CutAs part cs b) :
    CutAs (Joined op join part) cs b := by
  obtain ⟨ls, cuts, tokens⟩ := h
  exact ⟨ls, cuts, .single tokens⟩

theorem CutAs.and (left : CutAs m.Conjunction cs a) (right : CutAs m.Conjunction ds b) :
    CutAs m.Conjunction (cs ++ '&' :: '&' :: ds) (m.conj a b) := by
  obtain ⟨ls, cuts, tokens⟩ := left
  obtain ⟨ks, cuts', tokens'⟩ := right
  exact ⟨_, cuts.connective (.inl rfl) cuts', .append m.conj_assoc tokens tokens'⟩

theorem CutAs.or (left : CutAs m.Disjunction cs a) (right : CutAs m.Disjunction ds b) :
    CutAs m.Disjunction (cs ++ '|' :: '|' :: ds) (m.disj a b) := by
  obtain ⟨ls, cuts, tokens⟩ := left
  obtain ⟨ks, cuts', tokens'⟩ := right
  exact ⟨_, cuts.connective (.inr rfl) cuts', .append m.disj_assoc tokens tokens'⟩

/-- A text that is cut as a disjunction is read as a term that means its value. -/
theorem CutAs.parse? {text : String} (h : CutAs m.Disjunction text.toList b) :
    ∃ t, Expression.parse? text = some t ∧ m.means t b := by
  obtain ⟨ls, cuts, tokens⟩ := h
  exact parse?_of_disjunction cuts.tokens? tokens

end Texts

end Meaning

end QualityGate.Expression
