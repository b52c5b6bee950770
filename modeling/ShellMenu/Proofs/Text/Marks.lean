import ShellMenu.Proofs.Text.Reading

/-
  The words of a text that stand directly after a sign, as the name of a variable stands after a
  dollar or percent sign. What follows a text can make its last word longer, so the marks of two
  texts in a row are those of the one and those of the other only if the first one ends in a
  character that is neither part of a word nor a sign.
-/

namespace ShellMenu.Text

def isWordChar (c : Char) : Bool :=
  c.isAlphanum || c = '_'

/-- A word after a sign, with the character that ends it. -/
structure Mark where
  sign : Char
  word : List Char
  stop : Option Char
deriving DecidableEq, Repr

def markAt? (sign : Char) (rest : List Char) : Option Mark :=
  let word := rest.takeWhile isWordChar
  if word.isEmpty then none else some ⟨sign, word, (rest.dropWhile isWordChar).head?⟩

def marks (signs : List Char) : List Char → List Mark
  | [] => []
  | c :: rest => (if c ∈ signs then (markAt? c rest).toList else []) ++ marks signs rest

variable {signs : List Char}

/-! ## What a mark says of the text -/

theorem markAt?_eq_some_iff {sign : Char} {rest : List Char} {mark : Mark} :
    markAt? sign rest = some mark ↔
      mark.sign = sign ∧ mark.word ≠ [] ∧ (∀ c ∈ mark.word, isWordChar c = true) ∧
        (∀ c, mark.stop = some c → isWordChar c = false) ∧
        ∃ after, rest = mark.word ++ after ∧ after.head? = mark.stop := by
  constructor
  · intro found
    simp only [markAt?, Option.ite_none_left_eq_some, Option.some.injEq,
      List.isEmpty_iff] at found
    obtain ⟨something, rfl⟩ := found
    refine ⟨rfl, something, fun c present => ?_, fun c stops => ?_,
      rest.dropWhile isWordChar, List.takeWhile_append_dropWhile.symm, rfl⟩
    · exact List.all_eq_true.1 List.all_takeWhile c present
    · have left := List.head?_dropWhile_not isWordChar rest
      rw [show (rest.dropWhile isWordChar).head? = some c from stops] at left
      simpa using left
  · rintro ⟨rfl, something, inside, ends, after, rfl, next⟩
    have boundary : after.takeWhile isWordChar = [] ∧ after.dropWhile isWordChar = after := by
      cases after with
      | nil => exact ⟨rfl, rfl⟩
      | cons c after => simp [ends c next.symm]
    rw [markAt?, List.takeWhile_append_of_pos inside, List.dropWhile_append_of_pos inside,
      boundary.1, boundary.2, next]
    simp [something]

theorem mem_marks_iff {chars : List Char} {mark : Mark} :
    mark ∈ marks signs chars ↔
      mark.sign ∈ signs ∧ mark.word ≠ [] ∧ (∀ c ∈ mark.word, isWordChar c = true) ∧
        (∀ c, mark.stop = some c → isWordChar c = false) ∧
        ∃ before after, chars = before ++ mark.sign :: (mark.word ++ after) ∧
          after.head? = mark.stop := by
  induction chars with
  | nil => simp [marks]
  | cons c rest ih =>
      have here : mark ∈ (if c ∈ signs then (markAt? c rest).toList else []) ↔
          c ∈ signs ∧ markAt? c rest = some mark := by
        split
        · next listed => simp [listed]
        · next unlisted => simp [unlisted]
      rw [marks, List.mem_append, here, ih, markAt?_eq_some_iff]
      constructor
      · rintro (⟨listed, rfl, something, inside, ends, after, rfl, next⟩ |
          ⟨listed, something, inside, ends, before, after, rfl, next⟩)
        · exact ⟨listed, something, inside, ends, [], after, rfl, next⟩
        · exact ⟨listed, something, inside, ends, c :: before, after, rfl, next⟩
      · rintro ⟨listed, something, inside, ends, before, after, whole, next⟩
        cases before with
        | nil =>
            obtain ⟨rfl, rfl⟩ := List.cons.inj whole
            exact Or.inl ⟨listed, rfl, something, inside, ends, after, rfl, next⟩
        | cons d before =>
            obtain ⟨rfl, rfl⟩ := List.cons.inj whole
            exact Or.inr ⟨listed, something, inside, ends, before, after, rfl, next⟩

/-! ## Texts in a row -/

/-- No character of the text is a sign. -/
def Unmarked (signs : List Char) (text : String) : Prop :=
  ∀ c ∈ text.toList, c ∉ signs

instance (signs : List Char) (text : String) : Decidable (Unmarked signs text) :=
  List.decidableBAll (fun c => c ∉ signs) text.toList

theorem Unmarked.append {left right : String} (first : Unmarked signs left)
    (second : Unmarked signs right) : Unmarked signs (left ++ right) := by
  intro c present
  rw [String.toList_append, List.mem_append] at present
  exact present.elim (first c) (second c)

theorem marks_of_free {front : List Char} (free : ∀ c ∈ front, c ∉ signs) (rest : List Char) :
    marks signs (front ++ rest) = marks signs rest := by
  induction front with
  | nil => rfl
  | cons c front ih =>
      rw [List.cons_append, marks, if_neg (free c List.mem_cons_self), List.nil_append,
        ih fun d present => free d (List.mem_cons_of_mem c present)]

/-- Neither part of a word nor a sign. -/
def isBreak (signs : List Char) (c : Char) : Bool :=
  !isWordChar c && !signs.contains c

/-- A break is what the text ends in, if there is anything in it. -/
def isSettled (signs : List Char) (front : List Char) : Bool :=
  front.getLast?.all (isBreak signs)

theorem markAt?_concat_append {last : Char} (stops : isWordChar last = false) (sign : Char)
    (front rest : List Char) :
    markAt? sign (front ++ last :: rest) = markAt? sign (front ++ [last]) := by
  have same : (front ++ last :: rest).takeWhile isWordChar =
      (front ++ [last]).takeWhile isWordChar ∧
      ((front ++ last :: rest).dropWhile isWordChar).head? =
        ((front ++ [last]).dropWhile isWordChar).head? := by
    induction front with
    | nil => simp [stops]
    | cons c front ih =>
        cases word : isWordChar c with
        | true => simp [word, ih]
        | false => simp [word]
  rw [markAt?, markAt?, same.1, same.2]

theorem marks_append {front : List Char} (settled : isSettled signs front = true)
    (rest : List Char) : marks signs (front ++ rest) = marks signs front ++ marks signs rest := by
  rcases List.eq_nil_or_concat' front with rfl | ⟨front, last, rfl⟩
  · rfl
  · simp only [isSettled, isBreak, List.getLast?_concat, Option.all_some, Bool.and_eq_true,
      Bool.not_eq_true', List.contains_eq_mem, decide_eq_false_iff_not] at settled
    obtain ⟨stops, unlisted⟩ := settled
    rw [List.append_assoc, List.singleton_append]
    induction front with
    | nil => simp [marks, unlisted]
    | cons c front ih =>
        simp only [List.cons_append, marks, markAt?_concat_append stops, ih, List.append_assoc]

/-! ## Lines -/

def lineMarks (signs : List Char) (line : String) : List Mark :=
  marks signs (line.toList ++ ['\n'])

section Lines

variable (stops : isBreak signs '\n' = true)
include stops

theorem marks_terminated (lines : List String) :
    marks signs (terminated lines).toList = lines.flatMap (lineMarks signs) := by
  induction lines with
  | nil => simp [terminated, joinLines, marks, markAt?]
  | cons line rest ih =>
      by_cases last : rest = []
      · simp [last, terminated, joinLines, lineMarks]
      · have whole : (terminated (line :: rest)).toList =
            (line.toList ++ ['\n']) ++ (terminated rest).toList := by
          rw [terminated, joinLines_cons line last]
          simp [terminated]
        rw [whole, marks_append (by simp [isSettled, stops]), ih, List.flatMap_cons, lineMarks]

/-- The marks of some lines are the same when they stand in a text of lines as one of them. -/
theorem lineMarks_joinLines (lines : List String) :
    lineMarks signs (joinLines lines) = lines.flatMap (lineMarks signs) := by
  rw [← marks_terminated stops, lineMarks, terminated, String.toList_append]
  rfl

theorem lineMarks_trimEnd {lines : List String} {last : String} (final : lines.getLast? = some last)
    (solid : EndsSolid last) :
    lineMarks signs (trimEnd (joinLines lines)) = lines.flatMap (lineMarks signs) := by
  obtain ⟨front, rfl⟩ := List.getLast?_eq_some_iff.1 final
  have ends : EndsSolid (joinLines (front ++ [last])) := by
    induction front with
    | nil => simpa [joinLines] using solid
    | cons line front ih =>
        rw [List.cons_append, joinLines_cons line (by simp)]
        exact (ih (by simp)).append _
  have whole : trimEnd (joinLines (front ++ [last])) = joinLines (front ++ [last]) := by
    have trimmed := ends.trimEnd_eq (show ∀ c ∈ "".toList, isBlank c = true by simp)
    rwa [String.append_empty] at trimmed
  rw [whole, lineMarks_joinLines stops]

end Lines

theorem lineMarks_of_unmarked {line : String} (free : Unmarked signs line) :
    lineMarks signs line = [] := by
  rw [lineMarks, marks_of_free free]
  simp [marks, markAt?]

theorem lineMarks_append {front : String} (settled : isSettled signs front.toList = true)
    (rest : String) :
    lineMarks signs (front ++ rest) = marks signs front.toList ++ lineMarks signs rest := by
  rw [lineMarks, String.toList_append, List.append_assoc, marks_append settled, lineMarks]

theorem lineMarks_unmarked_append {front : String} (free : Unmarked signs front) (rest : String) :
    lineMarks signs (front ++ rest) = lineMarks signs rest := by
  rw [lineMarks, String.toList_append, List.append_assoc, marks_of_free free, lineMarks]

end ShellMenu.Text
