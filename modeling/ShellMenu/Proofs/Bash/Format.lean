import ShellMenu.Proofs.Bash.Case

/-
  A text that printf is to print, written as its format in double quotes. Two readers come after one
  another: the shell takes the double quotes off, and printf reads what they leave. A single quote
  is escaped although double quotes do not take that backslash away; printf does.
-/

namespace ShellMenu.Bash

/-- What double quotes leave: a character, or a dollar sign that the shell goes on to expand. -/
inductive Glyph where
  | plain (c : Char)
  | live
deriving DecidableEq, Repr

def Glyph.ofChar (c : Char) : Glyph :=
  if c = '$' then .live else .plain c

/-- The inside of double quotes; `escaped` is after a backslash. A quote or a backtick that ends the
inside is not read, nor is a backslash with nothing after it. -/
def readQuoted : (escaped : Bool) → List Char → Option (List Glyph)
  | false, [] => some []
  | true, [] => none
  | false, c :: rest =>
      if c = '\\' then readQuoted true rest
      else if c = '"' ∨ c = '\x60' then none
      else (readQuoted false rest).map (.ofChar c :: ·)
  | true, c :: rest =>
      if c ∈ special then (readQuoted false rest).map (.plain c :: ·)
      -- A line goes on after its end.
      else if c = '\n' then readQuoted false rest
      else (readQuoted false rest).map ([.plain '\\', .plain c] ++ ·)

/-- A format; `lead` is the backslash or the percent sign that was just read. Only the sequences for
a backslash, a single quote and a percent sign are known. -/
def readFormat : (lead : Option Char) → List Glyph → Option (List Glyph)
  | none, [] => some []
  | some _, [] => none
  | none, .live :: rest => (readFormat none rest).map (.live :: ·)
  | some _, .live :: _ => none
  | none, .plain c :: rest =>
      if c = '\\' ∨ c = '%' then readFormat (some c) rest
      else (readFormat none rest).map (.plain c :: ·)
  | some lead, .plain c :: rest =>
      if c = lead ∨ lead = '\\' ∧ c = '\'' then (readFormat none rest).map (.plain c :: ·) else none

/-! ## What is written -/

/-- What the escape goes before. -/
def quotable : List Char := ['\\', '"', '\x60', '\'']

/-- What stands for a character in a format. -/
def formatChar (c : Char) : List Char :=
  if c = '\\' ∨ c = '%' then [c, c] else [c]

theorem toList_escape (text : String) :
    (escape text).toList = text.toList.flatMap (Escape.escapeChar '\\' quotable) :=
  Escape.toList_sequential (show quotable.Nodup by decide) (show '\\' ∉ quotable.tail by decide)
    text

theorem toList_printfFormat (text : String) :
    (printfFormat text).toList = text.toList.flatMap formatChar := by
  have percents := Text.toList_replaceAll_singleton '%' "%%" (Text.replaceAll "\\" "\\\\" text)
  have backslashes := Text.toList_replaceAll_singleton '\\' "\\\\" text
  refine percents.trans ?_
  rw [show (Text.replaceAll "\\" "\\\\" text).toList = _ from backslashes, List.flatMap_assoc]
  refine congrArg (text.toList.flatMap ·) (funext fun c => ?_)
  by_cases backslash : c = '\\'
  · subst backslash
    rfl
  · by_cases percent : c = '%'
    · subst percent
      rfl
    · simp [formatChar, backslash, percent]

/-! ## Reading it back -/

/-- What double quotes leave of a character that was escaped for them. -/
def leftOf (c : Char) : List Glyph :=
  if c = '\'' then [.plain '\\', .plain c] else [.ofChar c]

theorem readQuoted_escaped (chars : List Char) :
    readQuoted false (chars.flatMap (Escape.escapeChar '\\' quotable)) =
      some (chars.flatMap leftOf) := by
  induction chars with
  | nil => rfl
  | cons c chars ih =>
      rw [List.flatMap_cons, List.flatMap_cons]
      by_cases escaped : c ∈ quotable
      · have first : Escape.escapeChar '\\' quotable c = ['\\', c] := if_pos escaped
        rw [first]
        simp only [quotable, List.mem_cons, List.not_mem_nil, or_false] at escaped
        rcases escaped with rfl | rfl | rfl | rfl
        · simp [readQuoted, special, ih, leftOf, Glyph.ofChar]
        · simp [readQuoted, special, ih, leftOf, Glyph.ofChar]
        · simp [readQuoted, special, ih, leftOf, Glyph.ofChar]
        · simp [readQuoted, special, ih, leftOf]
      · have first : Escape.escapeChar '\\' quotable c = [c] := if_neg escaped
        simp only [quotable, List.mem_cons, List.not_mem_nil, or_false, not_or] at escaped
        obtain ⟨noBackslash, noQuote, noBacktick, noSingle⟩ := escaped
        rw [first]
        simp [readQuoted, noBackslash, noQuote, noBacktick, ih, leftOf, noSingle]

theorem readFormat_doubled (chars : List Char) :
    readFormat none ((chars.flatMap formatChar).flatMap leftOf) =
      some (chars.map Glyph.ofChar) := by
  induction chars with
  | nil => rfl
  | cons c chars ih =>
      rw [List.flatMap_cons, List.flatMap_append, List.map_cons]
      by_cases doubled : c = '\\' ∨ c = '%'
      · have first : formatChar c = [c, c] := if_pos doubled
        rw [first]
        rcases doubled with rfl | rfl
        · simp [readFormat, leftOf, Glyph.ofChar, ih]
        · simp [readFormat, leftOf, Glyph.ofChar, ih]
      · have first : formatChar c = [c] := if_neg doubled
        rw [first]
        by_cases single : c = '\''
        · subst single
          simp [readFormat, leftOf, Glyph.ofChar, ih]
        · by_cases dollar : c = '$'
          · subst dollar
            simp [readFormat, leftOf, Glyph.ofChar, ih]
          · simp [readFormat, leftOf, Glyph.ofChar, single, dollar, doubled, ih]

/-- The two readers take every escaped text, and give the text back with each of its dollar signs
live and in its place. -/
theorem printfEscape_prints_literally (text : String) :
    ∃ format, readQuoted false (printfEscape text).toList = some format ∧
      readFormat none format = some (text.toList.map Glyph.ofChar) := by
  have written : (printfEscape text).toList =
      (text.toList.flatMap formatChar).flatMap (Escape.escapeChar '\\' quotable) := by
    rw [printfEscape, toList_escape, toList_printfFormat]
  refine ⟨(text.toList.flatMap formatChar).flatMap leftOf, ?_, readFormat_doubled text.toList⟩
  rw [written, readQuoted_escaped]

end ShellMenu.Bash
