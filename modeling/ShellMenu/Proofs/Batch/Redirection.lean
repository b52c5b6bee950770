import Mathlib.Algebra.Group.Nat.Even
import Mathlib.Data.List.Induction
import ShellMenu.Batch.Escape
import ShellMenu.Proofs.Text.Escaping

/-
  What carets leave of an escaped text. A caret is dropped and makes the next character literal, and
  escaping puts one before each operator that redirects. A caret that the text has itself is not
  escaped: it uses up the caret that was put in after it, and the operator after both is live.
-/

namespace ShellMenu

namespace Placeholder

/-! ## Pieces -/

theorem nameAt_prefix (chars : List Char) : nameAt chars <+: chars := by
  cases chars with
  | nil => exact List.prefix_rfl
  | cons c rest =>
      rw [nameAt]
      split
      · exact List.cons_prefix_cons.2 ⟨rfl, List.takeWhile_prefix _⟩
      · exact List.nil_prefix

/-- A placeholder is made of the dollar sign and of characters right after it. -/
theorem exists_of_placeholderAt? {rest : List Char} {piece : Piece}
    (found : placeholderAt? rest = some piece) :
    ∃ inside after, piece.chars = '$' :: inside ∧ rest = inside ++ after := by
  unfold placeholderAt? at found
  split at found
  · next rest =>
      obtain ⟨after, parts⟩ := nameAt_prefix rest
      generalize nameAt rest = name at found parts
      subst parts
      simp only [Option.ite_none_right_eq_some, Bool.and_eq_true, decide_eq_true_eq, List.drop_left]
        at found
      obtain ⟨⟨_, closed⟩, made⟩ := found
      cases made
      obtain ⟨after, rfl⟩ := List.head?_eq_some_iff.1 closed
      exact ⟨'\x7b' :: name ++ ['\x7d'], after, rfl, by simp⟩
  · obtain ⟨after, parts⟩ := nameAt_prefix rest
    simp only [Option.ite_none_left_eq_some] at found
    obtain ⟨_, made⟩ := found
    cases made
    exact ⟨nameAt rest, after, rfl, parts.symm⟩

theorem piecesFrom_append (inside after : List Char) :
    piecesFrom inside.length (inside ++ after) = piecesFrom 0 after := by
  induction inside with
  | nil => rfl
  | cons c inside ih => exact ih

/-- The pieces are the text, cut up. -/
theorem flatMap_chars_pieces (chars : List Char) : (pieces chars).flatMap Piece.chars = chars := by
  induction length : chars.length using Nat.strong_induction_on generalizing chars with
  | _ n ih =>
      cases chars with
      | nil => rfl
      | cons c rest =>
          rw [pieces, piecesFrom]
          cases found : if c = '$' then placeholderAt? rest else none with
          | none =>
              have shorter := ih rest.length (by simp [← length]) rest rfl
              rw [List.flatMap_cons, ← pieces, shorter]
              rfl
          | some piece =>
              obtain ⟨dollar, found⟩ := Option.ite_none_right_eq_some.1 found
              obtain ⟨inside, after, written, rfl⟩ := exists_of_placeholderAt? found
              have below : after.length < n := by
                rw [← length, List.length_cons, List.length_append]
                omega
              have shorter := ih after.length below after rfl
              simp only [List.flatMap_cons, written, List.length_cons, Nat.add_sub_cancel]
              rw [piecesFrom_append, ← pieces, shorter, dollar, List.cons_append]

/-- Only dollar signs, braces and percent signs come and go. -/
theorem mem_converted_iff (names : List String) {c : Char} (kept : c ∉ ['$', '\x7b', '\x7d', '%'])
    (piece : Piece) : c ∈ piece.converted names ↔ c ∈ piece.chars := by
  simp only [List.mem_cons, List.not_mem_nil, or_false, not_or] at kept
  cases piece with
  | plain d => rfl
  | bare name =>
      rw [Piece.converted]
      split <;> simp [Piece.chars, kept]
  | braced name =>
      rw [Piece.converted]
      split <;> simp [Piece.chars, kept]

theorem mem_convert_iff (names : List String) {c : Char} (kept : c ∉ ['$', '\x7b', '\x7d', '%'])
    (text : String) : c ∈ (convert names text).toList ↔ c ∈ text.toList := by
  rw [convert, String.toList_ofList, convertChars, List.mem_flatMap]
  simp only [mem_converted_iff names kept]
  rw [← List.mem_flatMap, flatMap_chars_pieces]

end Placeholder

namespace Batch

/-! ## Carets -/

/-- A character that was read, and whether a caret made it literal. -/
structure Sign where
  char : Char
  literal : Bool
deriving DecidableEq, Repr

/-- From left to right; `caret` is right after a caret that was dropped. -/
def readCarets : (caret : Bool) → List Char → List Sign
  | _, [] => []
  | false, c :: rest =>
      if c = '^' then readCarets true rest else ⟨c, false⟩ :: readCarets false rest
  | true, c :: rest => ⟨c, true⟩ :: readCarets false rest

/-- The operators that send a command's input or output elsewhere. -/
def redirections : List Char := ['>', '<', '|']

/-- No operator is live. -/
def Neutral (signs : List Sign) : Prop :=
  ∀ sign ∈ signs, sign.char ∈ redirections → sign.literal = true

instance (signs : List Sign) : Decidable (Neutral signs) :=
  List.decidableBAll _ signs

/-- How many carets stand at the end. -/
def caretsAtEnd (chars : List Char) : Nat :=
  (chars.reverse.takeWhile (· = '^')).length

/-! ## What is read -/

/-- Whether a caret is pending after a character. -/
def caretAfter (caret : Bool) (c : Char) : Bool :=
  c = '^' && !caret

/-- What is read of a character that was escaped. -/
def signsOf (caret : Bool) (c : Char) : List Sign :=
  if c = '^' then if caret then [⟨'^', true⟩] else []
  else if c ∈ redirections then if caret then [⟨'^', true⟩, ⟨c, false⟩] else [⟨c, true⟩]
  else [⟨c, caret⟩]

/-- The text with a caret before each operator. -/
def guarded (chars : List Char) : List Char :=
  chars.flatMap (Escape.escapeChar '^' redirections)

theorem toList_escape (text : String) :
    (escape text).toList = guarded (Placeholder.convert Variables.batchNames text).toList :=
  Escape.toList_sequential (show redirections.Nodup by decide)
    (show '^' ∉ redirections.tail by decide) _

/-- One character is read at a time, and all that it leaves to the next one is a caret. -/
theorem readCarets_guarded_cons (caret : Bool) (c : Char) (rest : List Char) :
    readCarets caret (guarded (c :: rest)) =
      signsOf caret c ++ readCarets (caretAfter caret c) (guarded rest) := by
  have parts : guarded (c :: rest) = Escape.escapeChar '^' redirections c ++ guarded rest :=
    List.flatMap_cons
  by_cases same : c = '^'
  · subst same
    have alone : Escape.escapeChar '^' redirections '^' = ['^'] := by decide
    rw [parts, alone]
    cases caret <;> simp [readCarets, signsOf, caretAfter]
  · by_cases operator : c ∈ redirections
    · have first : Escape.escapeChar '^' redirections c = ['^', c] := if_pos operator
      rw [parts, first]
      cases caret <;> simp [readCarets, signsOf, caretAfter, same, operator]
    · have first : Escape.escapeChar '^' redirections c = [c] := if_neg operator
      rw [parts, first]
      cases caret <;> simp [readCarets, signsOf, caretAfter, same, operator]

/-- A property of every place in a text, and of what comes before it. -/
theorem forall_places_cons {c : Char} {rest : List Char}
    {holds : List Char → Char → List Char → Prop} :
    (∀ before d after, c :: rest = before ++ d :: after → holds before d after) ↔
      holds [] c rest ∧
        ∀ before d after, rest = before ++ d :: after → holds (c :: before) d after := by
  constructor
  · intro all
    exact ⟨all [] c rest rfl, fun before d after parts =>
      all (c :: before) d after (by simp [parts])⟩
  · rintro ⟨first, later⟩ before d after parts
    cases before with
    | nil =>
        cases parts
        exact first
    | cons e before =>
        obtain ⟨rfl, others⟩ := List.cons.inj parts
        exact later before d after others

/-! ## Operators -/

theorem neutral_append {left right : List Sign} :
    Neutral (left ++ right) ↔ Neutral left ∧ Neutral right :=
  List.forall_mem_append

theorem neutral_signsOf_iff (caret : Bool) (c : Char) :
    Neutral (signsOf caret c) ↔ (c ∈ redirections → caret = false) := by
  by_cases same : c = '^'
  · subst same
    cases caret <;> decide
  · by_cases operator : c ∈ redirections
    · cases caret <;> simp [Neutral, signsOf, same, operator]
    · simp [Neutral, signsOf, same, operator]

theorem neutral_readCarets_iff (caret : Bool) (chars : List Char) :
    Neutral (readCarets caret (guarded chars)) ↔
      ∀ before operator after, chars = before ++ operator :: after → operator ∈ redirections →
        before.foldl caretAfter caret = false := by
  induction chars generalizing caret with
  | nil => simp [guarded, readCarets, Neutral]
  | cons c rest ih =>
      rw [readCarets_guarded_cons, neutral_append, neutral_signsOf_iff, ih, forall_places_cons]
      rfl

theorem caretsAtEnd_concat (front : List Char) (last : Char) :
    caretsAtEnd (front ++ [last]) = if last = '^' then caretsAtEnd front + 1 else 0 := by
  by_cases same : last = '^'
  · simp [caretsAtEnd, same]
  · simp [caretsAtEnd, same]

/-- Every other caret of a run is pending. -/
theorem foldl_caretAfter_eq_false_iff (chars : List Char) :
    chars.foldl caretAfter false = false ↔ Even (caretsAtEnd chars) := by
  induction chars using List.reverseRecOn with
  | nil => simp [caretsAtEnd]
  | append_singleton front last ih =>
      rw [List.foldl_append, List.foldl_cons, List.foldl_nil, caretsAtEnd_concat]
      by_cases same : last = '^'
      · rw [if_pos same, Nat.even_add_one, ← ih]
        simp [caretAfter, same]
      · simp [caretAfter, same]

/-! ## Characters -/

/-- A caret that is pending stands for one more character at most. -/
theorem length_readCarets_le (caret : Bool) (chars : List Char) :
    (readCarets caret (guarded chars)).length ≤ chars.length + caret.toNat := by
  induction chars generalizing caret with
  | nil => simp [guarded, readCarets]
  | cons c rest ih =>
      have step : (signsOf caret c).length + (caretAfter caret c).toNat ≤ 1 + caret.toNat := by
        unfold signsOf caretAfter
        by_cases same : c = '^'
        · cases caret <;> simp [same]
        · by_cases operator : c ∈ redirections
          · cases caret <;> simp [same, operator]
          · simp [same, operator]
      have others := ih (caretAfter caret c)
      rw [readCarets_guarded_cons, List.length_append, List.length_cons]
      omega

/-- Every caret stands right before an operator. -/
def CaretsGuard (chars : List Char) : Prop :=
  ∀ before c after, chars = before ++ c :: after → c = '^' →
    ∃ operator ∈ redirections, after.head? = some operator

theorem caretsGuard_cons_iff {c : Char} {rest : List Char} :
    CaretsGuard (c :: rest) ↔
      (c = '^' → ∃ operator ∈ redirections, rest.head? = some operator) ∧ CaretsGuard rest :=
  forall_places_cons

/-- After a caret that waits for a character, a second one leaves one of the two, so that a
character is missing from what is read. -/
theorem map_char_readCarets_iff (chars : List Char) :
    ((readCarets false (guarded chars)).map Sign.char = chars ↔ CaretsGuard chars) ∧
    ((readCarets true (guarded chars)).map Sign.char = '^' :: chars ↔
      (∃ operator ∈ redirections, chars.head? = some operator) ∧ CaretsGuard chars) := by
  induction chars with
  | nil => simp [guarded, readCarets, CaretsGuard]
  | cons c rest ih =>
      obtain ⟨free, pending⟩ := ih
      rw [readCarets_guarded_cons, readCarets_guarded_cons, caretsGuard_cons_iff, List.map_append,
        List.map_append]
      by_cases same : c = '^'
      · subst same
        constructor
        · simpa [signsOf, caretAfter] using pending
        · have short := length_readCarets_le false rest
          have missing : (readCarets false (guarded rest)).map Sign.char ≠ '^' :: rest := by
            intro equal
            have lengths := congrArg List.length equal
            simp only [List.length_map, List.length_cons, Bool.toNat_false] at lengths short
            omega
          simp [signsOf, caretAfter, missing, redirections]
      · by_cases operator : c ∈ redirections
        · simp [signsOf, caretAfter, same, operator, free]
        · simp [signsOf, caretAfter, same, operator, free]

/-- A caret right before an operator ends an odd run, unless another one comes right before it. -/
theorem not_mem_of_caretsGuard {chars : List Char} (guards : CaretsGuard chars)
    (even : ∀ before operator after, chars = before ++ operator :: after →
      operator ∈ redirections → Even (caretsAtEnd before)) : '^' ∉ chars := by
  intro present
  obtain ⟨before, after, parts⟩ := List.append_of_mem present
  obtain ⟨operator, redirects, next⟩ := guards before '^' after parts rfl
  obtain ⟨after, rfl⟩ := List.head?_eq_some_iff.1 next
  have run := even (before ++ ['^']) operator after (by simp [parts]) redirects
  rw [caretsAtEnd_concat, if_pos rfl, Nat.even_add_one] at run
  cases before using List.reverseRecOn with
  | nil => simp [caretsAtEnd] at run
  | append_singleton front last =>
      by_cases same : last = '^'
      · obtain ⟨other, redirects, next⟩ :=
          guards front last ('^' :: operator :: after) (by simp [parts]) same
        cases next
        exact absurd redirects (by decide)
      · simp [caretsAtEnd_concat, same] at run

theorem caretsAtEnd_eq_zero {chars : List Char} (free : '^' ∉ chars) : caretsAtEnd chars = 0 := by
  cases chars using List.reverseRecOn with
  | nil => rfl
  | append_singleton front last =>
      have other : last ≠ '^' := fun same => free (by simp [same])
      rw [caretsAtEnd_concat, if_neg other]

/-- An operator of an escaped text is literal exactly if an even number of carets comes right before
it in the text, and the characters of the text come back exactly if each caret in it stands right
before an operator. So both hold exactly of the texts without a caret. -/
theorem escape_neutral_iff (text : String) :
    (Neutral (readCarets false (escape text).toList) ↔
      ∀ before operator after,
        (Placeholder.convert Variables.batchNames text).toList = before ++ operator :: after →
          operator ∈ redirections → Even (caretsAtEnd before)) ∧
    ((readCarets false (escape text).toList).map Sign.char =
        (Placeholder.convert Variables.batchNames text).toList ↔
      CaretsGuard (Placeholder.convert Variables.batchNames text).toList) ∧
    (Neutral (readCarets false (escape text).toList) ∧
        (readCarets false (escape text).toList).map Sign.char =
          (Placeholder.convert Variables.batchNames text).toList ↔
      '^' ∉ text.toList) := by
  rw [toList_escape, ← Placeholder.mem_convert_iff Variables.batchNames (by decide) text]
  generalize (Placeholder.convert Variables.batchNames text).toList = chars
  have operators := neutral_readCarets_iff false chars
  simp only [foldl_caretAfter_eq_false_iff] at operators
  have characters := (map_char_readCarets_iff chars).1
  refine ⟨operators, characters, ?_⟩
  rw [operators, characters]
  constructor
  · rintro ⟨even, guards⟩
    exact not_mem_of_caretsGuard guards even
  · intro free
    constructor
    · rintro before operator after rfl _
      have none : '^' ∉ before := fun present => free (List.mem_append_left _ present)
      simp [caretsAtEnd_eq_zero none]
    · rintro before c after rfl rfl
      exact absurd (by simp) free

/-- The caret that was put in is read as a character, and the redirection is live. -/
theorem escaped_caret_redirects :
    escape "a^>b" = "a^^>b" ∧
    readCarets false (escape "a^>b").toList =
      [⟨'a', false⟩, ⟨'^', true⟩, ⟨'>', false⟩, ⟨'b', false⟩] ∧
    ¬ (Neutral (readCarets false (escape "a^>b").toList) ∧
      (readCarets false (escape "a^>b").toList).map Sign.char =
        (Placeholder.convert Variables.batchNames "a^>b").toList) ∧
    (Neutral (readCarets false (escape "a > $RED").toList) ∧
      (readCarets false (escape "a > $RED").toList).map Sign.char =
        (Placeholder.convert Variables.batchNames "a > $RED").toList) := by
  refine ⟨by decide +kernel, by decide +kernel, ?_, ?_⟩
  · exact mt (escape_neutral_iff "a^>b").2.2.1 (by decide)
  · exact (escape_neutral_iff "a > $RED").2.2.2 (by decide)

end Batch

end ShellMenu
