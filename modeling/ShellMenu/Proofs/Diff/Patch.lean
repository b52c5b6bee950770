import ShellMenu.Proofs.Diff.Hunks
import ShellMenu.Proofs.Number.Text
import ShellMenu.Proofs.Text.Reading

/-
  A difference as a patch. Its text is read line by line: a hunk has as many lines as the ranges in
  its header say. The hunks that are read are those that were written, so applying the text to the
  old lines gives the new ones.
-/

namespace ShellMenu

namespace Text

/-! ## Lines without line breaks -/

theorem not_isLineBreak_of_mem_brokenLines {chars line : List Char}
    (listed : line ∈ brokenLines chars) : ∀ c ∈ line, isLineBreak c = false := by
  fun_induction brokenLines chars generalizing line with
  | case1 => cases listed
  | case2 rest ih =>
      rcases List.mem_cons.1 listed with rfl | later
      · simp
      · exact ih later
  | case3 c rest crlf isBreak ih =>
      rcases List.mem_cons.1 listed with rfl | later
      · simp
      · exact ih later
  | case4 c rest crlf plain none ih =>
      cases List.mem_singleton.1 listed
      simpa using plain
  | case5 c rest crlf plain first others more ih =>
      rcases List.mem_cons.1 listed with rfl | later
      · have inside := ih (more ▸ List.mem_cons_self)
        simpa using ⟨by simpa using plain, inside⟩
      · exact ih (more ▸ List.mem_cons_of_mem first later)

theorem not_mem_normalizedLines {text line : String} (listed : line ∈ normalizedLines text) :
    '\n' ∉ line.toList := by
  rw [normalizedLines, splitLines] at listed
  obtain ⟨chars, broken, rfl⟩ := List.mem_map.1 listed
  rw [String.toList_ofList]
  intro present
  exact absurd (not_isLineBreak_of_mem_brokenLines broken '\n' present) (by decide)

end Text

namespace Diff

/-! ## Reading a patch -/

namespace Patch

def readNumber (text : String) : Option Nat :=
  if text ≠ "" ∧ text.toList.all Char.isDigit then some (Nat.ofDigitChars 10 text.toList 0)
  else none

/-- Where a range starts, counted from zero, and how many lines it has: one if it does not say, and
after the line that it names if it has none. -/
def readRange (text : String) : Option (Nat × Nat) :=
  match Text.splitAt ',' text with
  | [start] => do
      let line ← readNumber start
      if line = 0 then none else some (line - 1, 1)
  | [start, size] => do
      let line ← readNumber start
      let count ← readNumber size
      if count = 0 then some (line, 0) else if line = 0 then none else some (line - 1, count)
  | _ => none

def readSigned (sign : Char) (text : String) : Option (Nat × Nat) :=
  match text.toList with
  | c :: rest => if c = sign then readRange (String.ofList rest) else none
  | [] => none

/-- The hunk that a header announces, without its lines. -/
def readHeader (line : String) : Option Hunk :=
  match Text.splitAt ' ' line with
  | ["@@", old, new, "@@"] => do
      let oldRange ← readSigned '-' old
      let newRange ← readSigned '+' new
      some ⟨oldRange.1, oldRange.2, newRange.1, newRange.2, []⟩
  | _ => none

def readMarked (line : String) : Option (Mark × String) :=
  match line.toList with
  | ' ' :: rest => some (.kept, String.ofList rest)
  | '-' :: rest => some (.removed, String.ofList rest)
  | '+' :: rest => some (.added, String.ofList rest)
  | _ => none

/-- How many lines of the old text a marked line stands for, and how many of the new one. -/
def spent : Mark → Nat × Nat
  | .kept => (1, 1)
  | .removed => (1, 0)
  | .added => (0, 1)

/-- `old` and `new` lines are still to come in the hunk that is being read. Gives the rest of that
hunk and the hunks behind it. -/
def readLines : (old new : Nat) → List String → Option (List (Mark × String) × List Hunk)
  | old, new, [] => if old = 0 ∧ new = 0 then some ([], []) else none
  | old, new, line :: rest =>
      if old = 0 ∧ new = 0 then do
        let hunk ← readHeader line
        let (lines, hunks) ← readLines hunk.oldCount hunk.newCount rest
        some ([], { hunk with lines } :: hunks)
      else do
        let (mark, text) ← readMarked line
        if (spent mark).1 ≤ old ∧ (spent mark).2 ≤ new then do
          let (lines, hunks) ← readLines (old - (spent mark).1) (new - (spent mark).2) rest
          some ((mark, text) :: lines, hunks)
        else none

/-- Nothing, or the names of both texts and the hunks. -/
def read (text : String) : Option (List Hunk) :=
  if text = "" then some []
  else
    match Text.splitAt '\n' text with
    | old :: new :: rest =>
        if Text.startsWith old "--- " && Text.startsWith new "+++ " then
          (readLines 0 0 rest).map Prod.snd
        else none
    | _ => none

/-- The lines after a patch, if it applies to those before. -/
def apply (text : String) (lines : List String) : Option (List String) := do
  applyFrom 0 0 lines (← read text)

/-! ## What was written -/

theorem rangeText_one (start : Nat) : rangeText start 1 = toString (start + 1) := rfl

/-- A range that says how many lines it has. -/
theorem rangeText_of_ne_one {count : Nat} (several : count ≠ 1) (start : Nat) :
    rangeText start count =
      toString (if count = 0 then start else start + 1) ++ "," ++ toString count := by
  unfold rangeText
  rw [if_neg several]
  by_cases empty : count = 0
  · rw [if_pos empty, if_pos empty, empty, String.append_assoc]
    rfl
  · rw [if_neg empty, if_neg empty]
    rfl

theorem mem_rangeText {start count : Nat} {c : Char}
    (present : c ∈ (rangeText start count).toList) : c.isDigit = true ∨ c = ',' := by
  by_cases one : count = 1
  · subst one
    exact Or.inl (isDigit_of_mem_toString present)
  · rw [rangeText_of_ne_one one, String.toList_append, String.toList_append, List.mem_append,
      List.mem_append] at present
    rcases present with (first | comma) | second
    · exact Or.inl (isDigit_of_mem_toString first)
    · exact Or.inr (List.mem_singleton.1 comma)
    · exact Or.inl (isDigit_of_mem_toString second)

theorem not_mem_rangeText {c : Char} (other : c.isDigit = false ∧ c ≠ ',') (start count : Nat) :
    c ∉ (rangeText start count).toList := by
  intro present
  rcases mem_rangeText present with digit | comma
  · simp [other.1] at digit
  · exact other.2 comma

theorem readNumber_toString (n : Nat) : readNumber (toString n) = some n := by
  have some : toString n ≠ "" := fun empty =>
    toList_toString_ne_nil n (String.toList_eq_nil_iff.2 empty)
  have digits : (toString n).toList.all Char.isDigit = true :=
    List.all_eq_true.2 fun c => isDigit_of_mem_toString
  rw [readNumber, if_pos ⟨some, digits⟩, toList_toString, Nat.ofDigitChars_ten_toDigits]

theorem splitAt_toString (n : Nat) : Text.splitAt ',' (toString n) = [toString n] :=
  Text.splitAt_of_not_mem fun present => absurd (isDigit_of_mem_toString present) (by decide)

theorem readRange_rangeText (start count : Nat) :
    readRange (rangeText start count) = some (start, count) := by
  by_cases one : count = 1
  · subst one
    rw [readRange, rangeText_one, splitAt_toString]
    simp only [readNumber_toString, bind, Option.bind_some]
    rfl
  · generalize named : (if count = 0 then start else start + 1) = line
    have written := rangeText_of_ne_one one start
    rw [named] at written
    have parts : (rangeText start count).toList =
        (toString line).toList ++ ',' :: (toString count).toList := by
      rw [written, String.toList_append, String.toList_append, List.append_assoc]
      rfl
    rw [readRange, Text.splitAt_eq_append parts, splitAt_toString, splitAt_toString]
    simp only [List.singleton_append, readNumber_toString, bind, Option.bind_some]
    subst named
    by_cases empty : count = 0
    · simp [empty]
    · simp [empty]

theorem splitAt_header {old new : String} (oldWord : ' ' ∉ old.toList)
    (newWord : ' ' ∉ new.toList) :
    Text.splitAt ' ' s!"@@ -{old} +{new} @@" = ["@@", "-" ++ old, "+" ++ new, "@@"] := by
  have joined : s!"@@ -{old} +{new} @@" =
      " ".intercalate ["@@", "-" ++ old, "+" ++ new, "@@"] := by
    apply String.toList_injective
    simp [toString]
  rw [joined, Text.splitAt_intercalate (by simp)]
  simp [oldWord, newWord]

/-- A hunk is written as a header that can be read, and its lines. -/
theorem exists_header (hunk : Hunk) :
    ∃ header, hunk.source = header :: hunk.lines.map (fun (mark, line) => mark.source ++ line) ∧
      readHeader header = some { hunk with lines := [] } ∧ '\n' ∉ header.toList := by
  have unspaced : ∀ start count, ' ' ∉ (rangeText start count).toList :=
    not_mem_rangeText (by decide)
  have whole : ∀ start count, '\n' ∉ (rangeText start count).toList :=
    not_mem_rangeText (by decide)
  refine ⟨_, rfl, ?_, ?_⟩
  · rw [readHeader, splitAt_header (unspaced _ _) (unspaced _ _)]
    simp [readSigned, readRange_rangeText]
  · simp [toString, whole]

theorem readMarked_source (mark : Mark) (text : String) :
    readMarked (mark.source ++ text) = some (mark, text) := by
  cases mark <;> simp [readMarked, Mark.source]

theorem length_oldSide_cons (mark : Mark) (text : String) (lines : List (Mark × String)) :
    (oldSide ((mark, text) :: lines)).length = (spent mark).1 + (oldSide lines).length ∧
      (newSide ((mark, text) :: lines)).length = (spent mark).2 + (newSide lines).length := by
  cases mark <;> simp [oldSide, newSide, spent, Nat.add_comm]

/-- The lines of a hunk are read up to the counts of its header, and the next header follows. -/
theorem readLines_append {lines : List (Mark × String)} {rest : List String} {hunks : List Hunk}
    (others : readLines 0 0 rest = some ([], hunks)) :
    readLines (oldSide lines).length (newSide lines).length
      (lines.map (fun (mark, line) => mark.source ++ line) ++ rest) = some (lines, hunks) := by
  induction lines with
  | nil => exact others
  | cons line lines ih =>
      obtain ⟨mark, text⟩ := line
      obtain ⟨oldLength, newLength⟩ := length_oldSide_cons mark text lines
      have more : ¬ ((spent mark).1 + (oldSide lines).length = 0 ∧
          (spent mark).2 + (newSide lines).length = 0) := by
        cases mark <;> simp [spent]
      rw [oldLength, newLength, List.map_cons, List.cons_append, readLines, if_neg more,
        readMarked_source]
      simp [ih]

theorem readLines_source {hunks : List Hunk} (measured : ∀ hunk ∈ hunks, hunk.Measured) :
    readLines 0 0 (hunks.flatMap Hunk.source) = some ([], hunks) := by
  induction hunks with
  | nil => rfl
  | cons hunk hunks ih =>
      obtain ⟨first, others⟩ := List.forall_mem_cons.1 measured
      obtain ⟨header, written, read, _⟩ := exists_header hunk
      have lines : readLines hunk.oldCount hunk.newCount _ = some (hunk.lines, hunks) :=
        first.old ▸ first.new ▸ readLines_append (ih others)
      rw [List.flatMap_cons, written, List.cons_append, readLines, if_pos ⟨rfl, rfl⟩, read]
      simp [lines]

/-! ## Applying what was written -/

theorem mem_of_mem_slice {lines : List String} {low high : Nat} {line : String}
    (present : line ∈ slice lines low high) : line ∈ lines :=
  List.mem_of_mem_drop (List.mem_of_mem_take present)

theorem mem_of_mem_marked {old new : List String} {edit : Edit} {marked : Mark × String}
    (present : marked ∈ edit.marked old new) : marked.2 ∈ old ∨ marked.2 ∈ new := by
  unfold Edit.marked at present
  split at present
  · obtain ⟨line, inside, rfl⟩ := List.mem_map.1 present
    exact Or.inl (mem_of_mem_slice inside)
  · rcases List.mem_append.1 present with removed | added
    · obtain ⟨line, inside, rfl⟩ := List.mem_map.1 removed
      exact Or.inl (mem_of_mem_slice inside)
    · obtain ⟨line, inside, rfl⟩ := List.mem_map.1 added
      exact Or.inr (mem_of_mem_slice inside)

/-- A hunk shows lines of the two texts and nothing else. -/
theorem mem_of_mem_hunks {old new : List String} {hunk : Hunk} (made : hunk ∈ hunks old new)
    {marked : Mark × String} (present : marked ∈ hunk.lines) : marked.2 ∈ old ∨ marked.2 ∈ new := by
  obtain ⟨group, _, shown⟩ := List.mem_filterMap.1 made
  unfold Hunk.ofGroup at shown
  split at shown
  · cases shown
    obtain ⟨edit, _, inside⟩ := List.mem_flatMap.1 present
    exact mem_of_mem_marked inside
  · cases shown

section Written

variable {old new : List String} (oldWhole : ∀ line ∈ old, '\n' ∉ line.toList)
  (newWhole : ∀ line ∈ new, '\n' ∉ line.toList)

include oldWhole newWhole in
theorem not_mem_source {hunk : Hunk} (made : hunk ∈ hunks old new) :
    ∀ line ∈ hunk.source, '\n' ∉ line.toList := by
  obtain ⟨header, written, _, whole⟩ := exists_header hunk
  rw [written, List.forall_mem_cons]
  refine ⟨whole, fun line listed => ?_⟩
  obtain ⟨⟨mark, text⟩, inside, rfl⟩ := List.mem_map.1 listed
  have free : '\n' ∉ text.toList := by
    rcases mem_of_mem_hunks made inside with left | right
    · exact oldWhole text left
    · exact newWhole text right
  cases mark <;> simpa [Mark.source] using free

theorem unifiedLines_eq (old new : List String) (oldLabel newLabel : String) :
    unifiedLines old new oldLabel newLabel =
      if hunks old new = [] then []
      else ("--- " ++ oldLabel) :: ("+++ " ++ newLabel) :: (hunks old new).flatMap Hunk.source := by
  unfold unifiedLines
  split
  · next none => rw [if_pos none]
  · next made some =>
      rw [if_neg some]
      rfl

theorem joinLines_unifiedLines_ne {oldLabel newLabel : String} (some : hunks old new ≠ []) :
    Text.joinLines (unifiedLines old new oldLabel newLabel) ≠ "" := by
  rw [unifiedLines_eq, if_neg some, Text.joinLines_cons _ (by simp), String.append_assoc,
    String.append_assoc]
  intro empty
  exact absurd (String.append_eq_empty_iff.1 empty).1 (by decide)

include oldWhole newWhole in
/-- The hunks that are read are those that were written. -/
theorem read_joinLines {oldLabel newLabel : String} (oldNamed : '\n' ∉ oldLabel.toList)
    (newNamed : '\n' ∉ newLabel.toList) :
    read (Text.joinLines (unifiedLines old new oldLabel newLabel)) = some (hunks old new) := by
  by_cases none : hunks old new = []
  · rw [unifiedLines_eq, if_pos none, none]
    rfl
  · have filled : Text.joinLines (unifiedLines old new oldLabel newLabel) ≠ "" :=
      joinLines_unifiedLines_ne none
    rw [unifiedLines_eq, if_neg none] at filled ⊢
    have whole : ∀ line ∈ ("--- " ++ oldLabel) :: ("+++ " ++ newLabel) ::
        (hunks old new).flatMap Hunk.source, '\n' ∉ line.toList := by
      intro line listed
      rcases List.mem_cons.1 listed with rfl | listed
      · simpa using oldNamed
      · rcases List.mem_cons.1 listed with rfl | listed
        · simpa using newNamed
        · obtain ⟨hunk, made, inside⟩ := List.mem_flatMap.1 listed
          exact not_mem_source oldWhole newWhole made line inside
    have marks : Text.startsWith ("--- " ++ oldLabel) "--- " = true ∧
        Text.startsWith ("+++ " ++ newLabel) "+++ " = true := by
      simp [Text.startsWith]
    rw [read, if_neg filled, Text.splitAt_joinLines_of_not_mem (List.cons_ne_nil _ _) whole]
    simp only [marks, Bool.and_self, if_true]
    rw [readLines_source fun hunk => measured_hunks, Option.map_some]

end Written

end Patch

/-- A difference is empty exactly if the two texts have the same lines. -/
theorem unified_eq_empty_iff (old new oldLabel newLabel : String) :
    unified old new oldLabel newLabel = "" ↔
      Text.normalizedLines old = Text.normalizedLines new := by
  rw [← hunks_eq_nil_iff, unified]
  constructor
  · intro empty
    by_contra some
    exact Patch.joinLines_unifiedLines_ne some empty
  · intro none
    rw [Patch.unifiedLines_eq, if_pos none]
    rfl

/-- A difference is empty exactly if the two texts have the same lines, and it is a patch: its
hunks apply to the old lines, at the places and with the lengths of their headers, and give the new
ones. -/
theorem unified_patches (old new oldLabel newLabel : String)
    (oldNamed : '\n' ∉ oldLabel.toList) (newNamed : '\n' ∉ newLabel.toList) :
    (unified old new oldLabel newLabel = "" ↔
      Text.normalizedLines old = Text.normalizedLines new) ∧
    Patch.apply (unified old new oldLabel newLabel) (Text.normalizedLines old) =
      some (Text.normalizedLines new) := by
  refine ⟨unified_eq_empty_iff old new oldLabel newLabel, ?_⟩
  have oldWhole : ∀ line ∈ Text.normalizedLines old, '\n' ∉ line.toList :=
    fun _ => Text.not_mem_normalizedLines
  have newWhole : ∀ line ∈ Text.normalizedLines new, '\n' ∉ line.toList :=
    fun _ => Text.not_mem_normalizedLines
  rw [Patch.apply, unified, Patch.read_joinLines oldWhole newWhole oldNamed newNamed,
    Option.bind_eq_bind, Option.bind_some, applyFrom_hunks]

/-- The first of ten lines goes and an eleventh comes: two hunks, the second one a line further up
in the new text. -/
theorem shifted_lines_patched :
    Patch.read (unified "a\nb\nc\nd\ne\nf\ng\nh\ni\nj" "b\nc\nd\ne\nf\ng\nh\ni\nj\nk" "a/x" "b/x") =
      some [
        ⟨0, 4, 0, 3, [(.removed, "a"), (.kept, "b"), (.kept, "c"), (.kept, "d")]⟩,
        ⟨7, 3, 6, 4, [(.kept, "h"), (.kept, "i"), (.kept, "j"), (.added, "k")]⟩] ∧
    Patch.apply (unified "a\nb\nc\nd\ne\nf\ng\nh\ni\nj" "b\nc\nd\ne\nf\ng\nh\ni\nj\nk" "a/x" "b/x")
        ["a", "b", "c", "d", "e", "f", "g", "h", "i", "j"] =
      some ["b", "c", "d", "e", "f", "g", "h", "i", "j", "k"] := by
  refine ⟨by decide +kernel, ?_⟩
  have patched := (unified_patches "a\nb\nc\nd\ne\nf\ng\nh\ni\nj" "b\nc\nd\ne\nf\ng\nh\ni\nj\nk"
    "a/x" "b/x" (by decide) (by decide)).2
  have old : Text.normalizedLines "a\nb\nc\nd\ne\nf\ng\nh\ni\nj" =
      ["a", "b", "c", "d", "e", "f", "g", "h", "i", "j"] := by
    decide +kernel
  have new : Text.normalizedLines "b\nc\nd\ne\nf\ng\nh\ni\nj\nk" =
      ["b", "c", "d", "e", "f", "g", "h", "i", "j", "k"] := by
    decide +kernel
  rw [old, new] at patched
  exact patched

end Diff

end ShellMenu
