import ShellMenu.Proofs.Bash.Case
import ShellMenu.Proofs.Number.Text

/-
  How bash reads a word. Quotes are removed, and a text with something live in it is not read. Each
  way of quoting gives a text that reads as what was quoted, whatever that is.
-/

namespace ShellMenu.Bash

/-- Where in a word the reading is; `escaped` is after a backslash in double quotes. -/
inductive Quoting where
  | bare
  | single
  | double
  | escaped
deriving DecidableEq, Repr

/-- Outside of quotes these end a word or stand for something else. -/
def metacharacters : List Char :=
  " \t\n|&;()<>\\$\x60*?[]\x7b\x7d#~!".toList

def readWord : Quoting → List Char → Option (List Char)
  | .bare, [] => some []
  | _, [] => none
  | .bare, c :: rest =>
      if c = '\'' then readWord .single rest
      else if c = '"' then readWord .double rest
      else if c ∈ metacharacters then none
      else (readWord .bare rest).map (c :: ·)
  | .single, c :: rest =>
      if c = '\'' then readWord .bare rest else (readWord .single rest).map (c :: ·)
  | .double, c :: rest =>
      if c = '"' then readWord .bare rest
      else if c = '\\' then readWord .escaped rest
      else if c ∈ special then none
      else (readWord .double rest).map (c :: ·)
  | .escaped, c :: rest =>
      if c ∈ special then (readWord .double rest).map (c :: ·)
      -- A line goes on after its end.
      else if c = '\n' then readWord .double rest
      else (readWord .double rest).map (['\\', c] ++ ·)

/-- The value of a text that is one word. -/
def word? (text : String) : Option String :=
  if Text.isEmpty text then none else (readWord .bare text.toList).map String.ofList

/-! ## Reading what was quoted -/

theorem readWord_safe {chars : List Char} (safe : ∀ c ∈ chars, isSafe c = true)
    (rest : List Char) :
    readWord .bare (chars ++ rest) = (readWord .bare rest).map (chars ++ ·) := by
  induction chars with
  | nil => simp
  | cons c chars ih =>
      have others : ('\'' :: '"' :: metacharacters).all (fun c => !isSafe c) = true := by decide
      have plain : c ∉ '\'' :: '"' :: metacharacters := by
        intro present
        have quotable := List.all_eq_true.1 others c present
        simp [safe c List.mem_cons_self] at quotable
      simp only [List.mem_cons, not_or] at plain
      have rest := ih fun c present => safe c (List.mem_cons_of_mem _ present)
      simp [readWord, plain, rest, Function.comp_def]

theorem readWord_doubled (chars rest : List Char) :
    readWord .double (chars.flatMap (Escape.escapeChar '\\' special) ++ '"' :: rest) =
      (readWord .bare rest).map (chars ++ ·) := by
  induction chars with
  | nil => simp [readWord]
  | cons c chars ih =>
      rw [List.flatMap_cons, List.append_assoc]
      by_cases escaped : c ∈ special
      · have first : Escape.escapeChar '\\' special c = ['\\', c] := if_pos escaped
        rw [first]
        simp [readWord, escaped, ih, Function.comp_def]
      · have first : Escape.escapeChar '\\' special c = [c] := if_neg escaped
        have noQuote : c ≠ '"' := fun same => escaped (same ▸ by decide)
        have noEscape : c ≠ '\\' := fun same => escaped (same ▸ by decide)
        rw [first]
        simp [readWord, noQuote, noEscape, escaped, ih, Function.comp_def]

/-- Inside single quotes a single quote closes them, stands in double ones and opens them again. -/
theorem readWord_singled (chars rest : List Char) :
    readWord .single (chars.flatMap
        (fun c => if c = '\'' then ['\'', '"', '\'', '"', '\''] else [c]) ++ '\'' :: rest) =
      (readWord .bare rest).map (chars ++ ·) := by
  induction chars with
  | nil => simp [readWord]
  | cons c chars ih =>
      rw [List.flatMap_cons, List.append_assoc]
      by_cases quote : c = '\''
      · subst quote
        simp [readWord, special, ih, Function.comp_def]
      · rw [if_neg quote]
        simp [readWord, quote, ih, Function.comp_def]

/-- Wherever in a word it stands, it is read as that text, and the reading goes on behind it. -/
def Denotes (quoted text : String) : Prop :=
  ∀ rest, readWord .bare (quoted.toList ++ rest) = (readWord .bare rest).map (text.toList ++ ·)

theorem Denotes.word?_eq {quoted text : String} (denotes : Denotes quoted text)
    (something : Text.isEmpty quoted = false) : word? quoted = some text := by
  have whole := denotes []
  rw [List.append_nil] at whole
  rw [word?, something, whole]
  simp [readWord]

theorem denotes_of_safe {text : String} (safe : ∀ c ∈ text.toList, isSafe c = true) :
    Denotes text text :=
  readWord_safe safe

theorem denotes_doubleQuote (text : String) : Denotes (doubleQuote text) text := by
  intro rest
  have inside := readWord_doubled text.toList rest
  rw [toList_doubleQuote]
  simpa [readWord] using inside

theorem denotes_singleQuoted (text : String) :
    Denotes ("'" ++ Text.replaceAll "'" "'\"'\"'" text ++ "'") text := by
  intro rest
  have inside : (Text.replaceAll "'" "'\"'\"'" text).toList =
      text.toList.flatMap fun c => if c = '\'' then ['\'', '"', '\'', '"', '\''] else [c] :=
    Text.toList_replaceAll_singleton '\'' "'\"'\"'" text
  have read := readWord_singled text.toList rest
  rw [← inside] at read
  simpa [readWord] using read

theorem word?_of_safe {text : String} (something : Text.isEmpty text = false)
    (safe : ∀ c ∈ text.toList, isSafe c = true) : word? text = some text :=
  (denotes_of_safe safe).word?_eq something

theorem word?_doubleQuote (text : String) : word? (doubleQuote text) = some text :=
  (denotes_doubleQuote text).word?_eq (by simp [Text.isEmpty, toList_doubleQuote])

theorem denotes_quoteWord (text : String) : Denotes (quoteWord text) text := by
  unfold quoteWord
  split
  · next empty =>
      have nothing : text = "" := by
        simpa [Text.isEmpty] using empty
      subst nothing
      exact denotes_singleQuoted ""
  · split
    · next safe => exact denotes_of_safe (List.all_eq_true.1 safe)
    · exact denotes_singleQuoted text

/-- Nothing becomes a pair of quotes, so there is always a word to read. -/
theorem quoteWord_ne_empty (text : String) : Text.isEmpty (quoteWord text) = false := by
  unfold quoteWord
  split
  · rfl
  · next something =>
      split
      · exact Bool.eq_false_iff.2 something
      · simp [Text.isEmpty]

theorem word?_quoteWord (text : String) : word? (quoteWord text) = some text :=
  (denotes_quoteWord text).word?_eq (quoteWord_ne_empty text)

theorem valueWord_str (text : String) : valueWord (.str text) = quoteWord text := by
  show (if Json.isSomething (.str text) then quoteWord text else "''") = quoteWord text
  split
  · rfl
  · next nothing => rw [quoteWord, if_pos (by simpa [Json.isSomething] using nothing)]

/-- Both ways of quoting give one word, which is the text. What they write can also be a part of
a longer word, and then it is that part. -/
theorem quoted_text_reads_back (text : String) :
    (word? (doubleQuote text) = some text ∧ Denotes (doubleQuote text) text) ∧
      word? (valueWord (.str text)) = some text ∧ Denotes (valueWord (.str text)) text := by
  rw [valueWord_str]
  exact ⟨⟨word?_doubleQuote text, denotes_doubleQuote text⟩, word?_quoteWord text,
    denotes_quoteWord text⟩

/-! ## Numbers -/

theorem isSafe_of_numeral {c : Char} (numeral : IsNumeral c) : isSafe c = true := by
  rcases numeral with digit | rfl | rfl | rfl | rfl
  · simp [isSafe, Char.isAlphanum, digit]
  · decide
  · decide
  · decide
  · decide

theorem word?_numeral {text : String} (something : text.toList ≠ []) (numeral : NumeralText text) :
    word? text = some text :=
  word?_of_safe (List.isEmpty_eq_false_iff.2 something) fun c present =>
    isSafe_of_numeral (numeral c present)

theorem word?_integer (value : Int) : word? (toString value) = some (toString value) :=
  word?_numeral (toList_toString_int_ne_nil value) (numeral_toString_int value)

theorem word?_binary64 (value : Binary64) : word? value.text = some value.text := by
  cases value with
  | nan => decide
  | infinite negative =>
      cases negative with
      | false => decide
      | true => decide
  | finite negative significand exponent =>
      refine word?_numeral ?_ (Binary64.numeral_text negative significand exponent)
      rcases Binary64.marked_text negative significand exponent with point | letter
      · exact List.ne_nil_of_mem point
      · exact List.ne_nil_of_mem letter

end ShellMenu.Bash
