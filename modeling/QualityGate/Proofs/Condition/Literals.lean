import QualityGate.Proofs.Condition.Occurrence
import QualityGate.Proofs.Condition.Scan
import QualityGate.Proofs.Expression.Lexeme

/-!
# Marks inside of literals and comments

A condition consists of reference tokens, of data, which are comments and the literals of texts and
bytes, and of other code (`pieces`). A scan knows nothing of literals: it takes every mark for the
start of a token that looks like one. This module says what that means for marks in data. The answer
of a scan is that for the condition with its data masked, and a substitution leaves all data as they
are, exactly if the occurrences are the tokens outside of data, or there are several paths both with
and without the data (`scan_mask_iff`).

Where each mark in data stands before a character that neither goes on with a path nor may follow a
token, as in the text `'$5'`, the data are inert, and the occurrences are the tokens.
-/

namespace QualityGate.Condition

open Expression (Lexeme)
open Text (byteLength)

/-! ## Pieces of a condition -/

/-- A piece of a condition. -/
inductive Piece where
  /-- Blanks, names, numbers and signs, and what is no expression at all. -/
  | code (cs : List Char)
  | token (path : List Char) (membership : Bool)
  /-- A comment, or a literal of a text or of bytes. -/
  | data (cs : List Char)

namespace Piece

/-- The characters of a piece. -/
def chars : Piece → List Char
  | code cs | token cs _ | data cs => cs

/-- The characters of a piece, with other ones for data. -/
def charsBy (g : List Char → List Char) : Piece → List Char
  | code cs | token cs _ => cs
  | data cs => g cs

/-- The characters of a piece, with a name in place of a token. -/
def fill (name : List Char) : Piece → List Char
  | code cs | data cs => cs
  | token _ _ => name

/-- The piece of a lexeme. -/
def ofLexeme (l : Lexeme) : Piece :=
  if l.kind = .comment ∨ l.kind = .text ∨ l.kind = .bytes then data l.chars else code l.chars

end Piece

/-- The pieces of a text. At a mark there is a token, or else a candidate that is none. The bound is
at least the length of the text. -/
def piecesFrom : Nat → List Char → List Piece
  | 0, _ => []
  | _, [] => []
  | bound + 1, c :: rest =>
    if c = '$' then
      let (segments, after) := splitToken rest
      let candidate := '$' :: segments
      match classify? candidate after with
      | some (path, membership) =>
        .token path membership :: .code (candidate.drop path.length) :: piecesFrom bound after
      | none => .code candidate :: piecesFrom bound after
    else match Lexeme.next (c :: rest) with
      | some (l, after) => .ofLexeme l :: piecesFrom bound after
      | none => .code [c] :: piecesFrom bound rest

/-- The pieces of a condition. -/
def pieces (condition : String) : List Piece := piecesFrom condition.length condition.toList

/-- The tokens among pieces, as occurrences from an offset on. -/
def tokensFrom : Nat → List Piece → List Occurrence
  | _, [] => []
  | offset, .token path membership :: rest =>
    ⟨path, membership, ⟨offset, offset + byteLength path⟩⟩ ::
      tokensFrom (offset + byteLength path) rest
  | offset, piece :: rest => tokensFrom (offset + byteLength piece.chars) rest

/-- The tokens of a condition, which stand outside of data. -/
def tokens (condition : String) : List Occurrence := tokensFrom 0 (pieces condition)

/-- A condition with `#` in place of every mark in data. -/
def mask (condition : String) : String :=
  String.ofList ((pieces condition).flatMap (Piece.charsBy (List.map unmark)))

/-- A condition with a name in place of every token, and all data as they are. -/
def fill (name condition : String) : String :=
  String.ofList ((pieces condition).flatMap (Piece.fill name.toList))

/-! ## The first pieces of a text -/

/-- The pieces at a mark: the token, if there is one, and what else is cut off with it. -/
def candidatePieces (candidate after : List Char) : List Piece :=
  match classify? candidate after with
  | some (path, membership) => [.token path membership, .code (candidate.drop path.length)]
  | none => [.code candidate]

theorem piecesFrom_mark (bound : Nat) (rest : List Char) :
    piecesFrom (bound + 1) ('$' :: rest) =
      candidatePieces ('$' :: (splitToken rest).1) (splitToken rest).2 ++
        piecesFrom bound (splitToken rest).2 := by
  rw [piecesFrom, if_pos rfl, candidatePieces]
  rcases splitToken rest with ⟨segments, after⟩
  dsimp only
  cases classify? ('$' :: segments) after <;> rfl

/-- A piece that starts with another character is data or has no mark. -/
theorem exists_piecesFrom_other {c : Char} (bound : Nat) (rest : List Char) (other : c ≠ '$') :
    ∃ piece after, piecesFrom (bound + 1) (c :: rest) = piece :: piecesFrom bound after ∧
      piece.chars ++ after = c :: rest ∧ after.length ≤ rest.length ∧
      ((∃ cs, piece = .code cs ∧ '$' ∉ cs) ∨ ∃ cs, piece = .data cs) := by
  rw [piecesFrom, if_neg other]
  cases next : Lexeme.next (c :: rest) with
  | none =>
      refine ⟨.code [c], rest, rfl, rfl, Nat.le_refl _, .inl ⟨[c], rfl, ?_⟩⟩
      simpa using Ne.symm other
  | some cut =>
      obtain ⟨l, after⟩ := cut
      have shorter := Lexeme.length_lt_of_next next
      rw [List.length_cons] at shorter
      have parts := Lexeme.append_of_next next
      refine ⟨.ofLexeme l, after, rfl, ?_, by omega, ?_⟩ <;> unfold Piece.ofLexeme <;> split
      · exact parts
      · exact parts
      · exact .inr ⟨_, rfl⟩
      case isFalse code =>
          simp only [not_or] at code
          exact .inl ⟨_, rfl, Lexeme.mark_not_mem next code.1 code.2.1 code.2.2⟩

/-- The pieces at a mark make up the candidate, whatever is shown of data. -/
theorem charsBy_candidatePieces (g : List Char → List Char) (candidate after : List Char) :
    (candidatePieces candidate after).flatMap (Piece.charsBy g) = candidate := by
  unfold candidatePieces
  split
  case h_1 path membership token =>
      obtain ⟨rest, rfl⟩ := prefix_of_classify? token
      simp [Piece.charsBy]
  case h_2 => simp [Piece.charsBy]

theorem Piece.charsBy_id : Piece.charsBy id = Piece.chars := by
  funext p
  cases p <;> rfl

/-- The tokens at a mark and behind it. -/
theorem tokensFrom_candidatePieces (offset : Nat) (candidate after : List Char)
    (rest : List Piece) :
    tokensFrom offset (candidatePieces candidate after ++ rest) =
      ((classify? candidate after).map fun (path, membership) =>
          ⟨path, membership, ⟨offset, offset + byteLength path⟩⟩).toList ++
        tokensFrom (offset + byteLength candidate) rest := by
  unfold candidatePieces
  split
  case h_1 path membership token =>
      obtain ⟨more, rfl⟩ := prefix_of_classify? token
      simp [token, tokensFrom, Piece.chars, Nat.add_assoc]
  case h_2 none => simp [none, tokensFrom, Piece.chars]

section Parts

variable {bound : Nat} {cs : List Char}

/-- The pieces of a text make it up. -/
theorem chars_piecesFrom (enough : cs.length ≤ bound) :
    (piecesFrom bound cs).flatMap Piece.chars = cs := by
  induction bound generalizing cs with
  | zero =>
      obtain rfl : cs = [] := List.eq_nil_of_length_eq_zero (by omega)
      rfl
  | succ bound ih =>
      match cs with
      | [] => rfl
      | c :: rest =>
          rw [List.length_cons] at enough
          by_cases mark : c = '$'
          · have shorter := length_splitToken rest
            rw [mark, piecesFrom_mark, List.flatMap_append, ih (by omega), ← Piece.charsBy_id,
              charsBy_candidatePieces, List.cons_append, append_splitToken]
          · obtain ⟨piece, after, first, parts, shorter, -⟩ :=
              exists_piecesFrom_other bound rest mark
            rw [first, List.flatMap_cons, ih (by omega), parts]

/-- The tokens of a text are in it. -/
theorem in_of_mem_tokensFrom (before : List Char) {o : Occurrence}
    (member : o ∈ tokensFrom (byteLength before) (piecesFrom bound cs)) :
    o.In (before ++ cs) := by
  induction bound generalizing before cs with
  | zero => cases member
  | succ bound ih =>
      match cs with
      | [] => cases member
      | c :: rest =>
          by_cases mark : c = '$'
          · rw [mark, piecesFrom_mark, tokensFrom_candidatePieces, ← Text.byteLength_append,
              List.mem_append] at member
            rw [mark]
            rcases member with here | behind
            · obtain ⟨⟨path, membership⟩, token, rfl⟩ :=
                Option.map_eq_some_iff.mp (Option.mem_toList.mp here)
              exact ⟨before, rest, rfl, token, rfl⟩
            · have found := ih _ behind
              rw [List.append_assoc, List.cons_append, append_splitToken] at found
              exact found
          · obtain ⟨piece, after, first, parts, -, kind⟩ :=
              exists_piecesFrom_other bound rest mark
            have tokens : tokensFrom (byteLength before) (piece :: piecesFrom bound after) =
                tokensFrom (byteLength (before ++ piece.chars)) (piecesFrom bound after) := by
              rw [Text.byteLength_append]
              rcases kind with ⟨cs, rfl, -⟩ | ⟨cs, rfl⟩ <;> rfl
            rw [first, tokens] at member
            have found := ih _ member
            rw [List.append_assoc, parts] at found
            exact found

end Parts

/-! ## Conditions with inert data -/

/-- Whether data may be shown as other characters: nothing occurs in these, and they differ from the
data in marks alone. -/
def Shows (g : List Char → List Char) (ps : List Piece) : Prop :=
  ∀ cs, .data cs ∈ ps → Inert (g cs) ∧ (g cs).map unmark = cs.map unmark

section Shown

variable {g : List Char → List Char} {bound : Nat} {cs : List Char}

theorem byteLength_map_unmark (cs : List Char) : byteLength (cs.map unmark) = byteLength cs := by
  have size (c : Char) : (unmark c).utf8Size = c.utf8Size := apply_unmark rfl c
  induction cs with
  | nil => rfl
  | cons c cs ih => rw [List.map_cons, Text.byteLength_cons, Text.byteLength_cons, size, ih]

theorem Shows.map_unmark {ps : List Piece} (shows : Shows g ps) :
    (ps.flatMap (Piece.charsBy g)).map unmark = (ps.flatMap Piece.chars).map unmark := by
  induction ps with
  | nil => rfl
  | cons p ps ih =>
      have own : (p.charsBy g).map unmark = p.chars.map unmark := by
        cases p with
        | code => rfl
        | token => rfl
        | data cs => exact (shows cs List.mem_cons_self).2
      have rest := ih fun cs member => shows cs (.tail p member)
      simp only [List.flatMap_cons, List.map_append, own, rest]

/-- The occurrences in a condition whose data are shown as inert characters are its tokens. -/
theorem occurrencesFrom_charsBy {more : Nat} (offset : Nat) (enough : cs.length ≤ bound)
    (shows : Shows g (piecesFrom bound cs))
    (enough' : ((piecesFrom bound cs).flatMap (Piece.charsBy g)).length ≤ more) :
    occurrencesFrom more offset ((piecesFrom bound cs).flatMap (Piece.charsBy g)) =
      tokensFrom offset (piecesFrom bound cs) := by
  induction bound generalizing more offset cs with
  | zero => cases more <;> rfl
  | succ bound ih =>
      match cs with
      | [] => cases more <;> rfl
      | c :: rest =>
          rw [List.length_cons] at enough
          by_cases mark : c = '$'
          · have shorter := length_splitToken rest
            rw [mark, piecesFrom_mark] at shows enough' ⊢
            have behind : Shows g (piecesFrom bound (splitToken rest).2) :=
              fun cs member => shows cs (List.mem_append_right _ member)
            have same := behind.map_unmark
            rw [chars_piecesFrom (by omega)] at same
            rw [List.flatMap_append, charsBy_candidatePieces] at enough' ⊢
            generalize shown :
              (piecesFrom bound (splitToken rest).2).flatMap (Piece.charsBy g) = others at *
            simp only [List.cons_append, List.length_cons, List.length_append] at enough'
            obtain ⟨more, rfl⟩ : ∃ k, more = k + 1 := ⟨more - 1, by omega⟩
            have token := splitToken_append same
            have class? : classify? ('$' :: (splitToken rest).1) others =
                classify? ('$' :: (splitToken rest).1) (splitToken rest).2 := by
              rw [← classify?_map_unmark, same, classify?_map_unmark]
            rw [List.cons_append, occurrencesFrom_mark, token, tokensFrom_candidatePieces]
            dsimp only
            rw [class?, ← shown, ih _ (by omega) behind (by rw [shown]; omega)]
          · obtain ⟨piece, after, first, parts, shorter, kind⟩ :=
              exists_piecesFrom_other bound rest mark
            rw [first] at shows enough' ⊢
            rw [List.flatMap_cons] at enough' ⊢
            have behind : Shows g (piecesFrom bound after) :=
              fun cs member => shows cs (.tail piece member)
            obtain ⟨inert, bytes⟩ : Inert (piece.charsBy g) ∧
                byteLength (piece.charsBy g) = byteLength piece.chars := by
              rcases kind with ⟨cs, rfl, free⟩ | ⟨cs, rfl⟩
              · exact ⟨inert_of_not_mem free, rfl⟩
              · obtain ⟨inert, same⟩ := shows cs List.mem_cons_self
                refine ⟨inert, ?_⟩
                exact (byteLength_map_unmark _).symm.trans
                  ((congrArg byteLength same).trans (byteLength_map_unmark _))
            have tokens : tokensFrom offset (piece :: piecesFrom bound after) =
                tokensFrom (offset + byteLength piece.chars) (piecesFrom bound after) := by
              rcases kind with ⟨cs, rfl, -⟩ | ⟨cs, rfl⟩ <;> rfl
            rw [occurrencesFrom_append inert enough', tokens, bytes]
            rw [List.length_append] at enough'
            exact ih _ (by omega) behind (by omega)

end Shown

/-- The occurrences in a masked condition are the tokens of the condition. -/
theorem occurrences_mask (condition : String) :
    occurrences (mask condition).toList = tokens condition := by
  have shows : Shows (List.map unmark) (pieces condition) := by
    intro cs _
    refine ⟨inert_of_not_mem fun mark => ?_, ?_⟩
    · obtain ⟨c, -, eq⟩ := List.mem_map.mp mark
      unfold unmark at eq
      split at eq
      · exact absurd eq (by decide)
      · contradiction
    · rw [List.map_map]
      exact List.map_congr_left fun c _ => apply_unmark (p := unmark) rfl c
  rw [occurrences, mask, String.toList_ofList]
  exact occurrencesFrom_charsBy 0 (Nat.le_of_eq String.length_toList) shows (Nat.le_refl _)

/-- Where all data are inert, the occurrences in a condition are its tokens. -/
theorem occurrences_eq_tokens {condition : String}
    (inert : ∀ cs, .data cs ∈ pieces condition → Inert cs) :
    occurrences condition.toList = tokens condition := by
  have whole : (pieces condition).flatMap (Piece.charsBy id) = condition.toList := by
    rw [Piece.charsBy_id]
    exact chars_piecesFrom (Nat.le_of_eq String.length_toList)
  have shown := occurrencesFrom_charsBy 0 (Nat.le_of_eq String.length_toList)
    (fun cs member => ⟨inert cs member, rfl⟩) (Nat.le_of_eq (congrArg List.length whole))
  exact (congrArg (occurrencesFrom condition.toList.length 0) whole).symm.trans shown

/-! ## Substitution -/

/-- The part of a text between two starts of it. -/
theorem sliceOf_byteLength {text done part behind : List Char}
    (parts : text = done ++ part ++ behind) :
    Reference.sliceOf (byteLength done) (byteLength (done ++ part)) text = part := by
  rw [parts, Reference.sliceOf, Text.slice?_byteLength]
  rfl

/-- Replacing the places of the tokens among pieces fills these pieces. Between the last place and
the next piece stands what is still to be copied. -/
theorem replaceSpans_tokensFrom (name : List Char) {text : List Char} (done pending : List Char)
    {ps : List Piece} (parts : text = done ++ pending ++ ps.flatMap Piece.chars) :
    Reference.replaceSpans name text (byteLength done)
        ((tokensFrom (byteLength (done ++ pending)) ps).map (·.span)) =
      pending ++ ps.flatMap (Piece.fill name) := by
  induction ps generalizing done pending with
  | nil =>
      have last := sliceOf_byteLength parts
      rw [List.flatMap_nil, List.append_nil] at parts
      rw [← parts] at last
      simpa [tokensFrom, Reference.replaceSpans] using last
  | cons p ps ih =>
      rw [List.flatMap_cons] at parts
      have copy {cs : List Char}
          (parts : text = done ++ pending ++ (cs ++ ps.flatMap Piece.chars)) :
          Reference.replaceSpans name text (byteLength done)
              ((tokensFrom (byteLength (done ++ pending) + byteLength cs) ps).map (·.span)) =
            pending ++ (cs ++ ps.flatMap (Piece.fill name)) := by
        have more := ih done (pending ++ cs) (by rw [parts]; simp)
        rw [← List.append_assoc, Text.byteLength_append (done ++ pending)] at more
        rw [more, List.append_assoc]
      cases p with
      | code cs => exact copy parts
      | data cs => exact copy parts
      | token path membership =>
          have before := sliceOf_byteLength parts
          have behind := ih (done ++ pending ++ path) []
            (by rw [parts]; simp [Piece.chars])
          rw [List.append_nil, Text.byteLength_append (done ++ pending)] at behind
          simp only [tokensFrom, List.map_cons, Reference.replaceSpans, before, behind]
          simp [Piece.fill]

/-- A substitution of the tokens among pieces that make up a condition fills these pieces. -/
theorem substitute_of_pieces {condition : String} {r : Reference} {ps : List Piece}
    (parts : ps.flatMap Piece.chars = condition.toList)
    (spans : r.spans = (tokensFrom 0 ps).map (·.span)) (name : String) :
    r.substitute condition name = String.ofList (ps.flatMap (Piece.fill name.toList)) := by
  rw [Reference.substitute, spans]
  exact congrArg String.ofList (replaceSpans_tokensFrom name.toList [] [] parts.symm)

/-- Substituting the tokens of a condition fills them. -/
theorem substitute_of_tokens {condition : String} {r : Reference}
    (spans : r.spans = (tokens condition).map (·.span)) (name : String) :
    r.substitute condition name = fill name condition :=
  substitute_of_pieces (chars_piecesFrom (Nat.le_of_eq String.length_toList)) spans name

/-! ## Scans -/

/-- **Marks in literals and comments are harmless exactly if a scan takes none for a token.** The
answer of a scan is that for the masked condition, and substitutions leave literals and comments as
they are, if and only if the occurrences in the condition are the tokens outside of its literals and
comments, or both name several paths. So it is wherever literals and comments are inert. -/
theorem scan_mask_iff (condition : String) :
    ((SameAnswer (Reference.scan condition) (Reference.scan (mask condition)) ∧
        ∀ r, Reference.scan condition = .ok r →
          ∀ name, r.substitute condition name = fill name condition) ↔
      occurrences condition.toList = tokens condition ∨
        (NamesSeveral (occurrences condition.toList) ∧ NamesSeveral (tokens condition))) ∧
    ((∀ cs, .data cs ∈ pieces condition → Inert cs) →
      occurrences condition.toList = tokens condition) := by
  have apart : ∀ o ∈ occurrences condition.toList, ∀ p ∈ occurrences (mask condition).toList,
      o.span = p.span → o = p := by
    intro o occurs p token place
    rw [occurrences_mask] at token
    have found : o.In condition.toList := in_of_mem_occurrencesFrom [] occurs
    exact found.eq (in_of_mem_tokensFrom [] token) place
  have answers := sameAnswer_scan_iff apart
  rw [occurrences_mask] at answers
  rw [answers]
  refine ⟨⟨And.left, fun either => ⟨either, fun r scan name => ?_⟩⟩, occurrences_eq_tokens⟩
  rcases scan_cases condition with ⟨fails, -⟩ | ⟨s, scans, spans, single⟩ | ⟨⟨paths, fails⟩, -⟩
  · rw [scan] at fails
    cases fails
  · obtain rfl : r = s := Except.ok.inj (scan.symm.trans scans)
    have same := either.resolve_right fun several => single several.1
    rw [same] at spans
    exact substitute_of_tokens spans name
  · rw [scan] at fails
    cases fails

/-- A mark before a blank is taken for a token in a text as well, so the condition names two paths.
With its text masked it names one. -/
theorem scan_mark_before_blank :
    let condition := "$.price == \"$ 5\""
    mask condition = "$.price == \"# 5\"" ∧
      Reference.scan condition = .error (.severalReferences condition ["$.price", "$"]) ∧
      Reference.scan (mask condition) = .ok ⟨"$.price", false, [⟨0, 7⟩]⟩ ∧
      ¬ SameAnswer (Reference.scan condition) (Reference.scan (mask condition)) := by
  have masked : mask "$.price == \"$ 5\"" = "$.price == \"# 5\"" := by decide +kernel
  have fails : Reference.scan "$.price == \"$ 5\"" =
      .error (.severalReferences "$.price == \"$ 5\"" ["$.price", "$"]) := by rfl
  have scans : Reference.scan "$.price == \"# 5\"" = .ok ⟨"$.price", false, [⟨0, 7⟩]⟩ := by rfl
  intro condition
  refine ⟨masked, fails, masked ▸ scans, fun answer => ?_⟩
  have answer : SameAnswer (Reference.scan "$.price == \"$ 5\"")
      (Reference.scan (mask "$.price == \"$ 5\"")) := answer
  rw [masked, fails, scans] at answer
  exact answer

end QualityGate.Condition
