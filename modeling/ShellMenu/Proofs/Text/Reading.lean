import Mathlib.Data.List.Basic
import ShellMenu.Text.Lines

/-
  Taking a generated text apart again: its lines, what is left of one without the blanks at its
  end, the words of a line, and what stands between two marks or two fixed texts.
-/

namespace ShellMenu.Text

/-! ## Lines -/

theorem splitAt_ne_nil (separator : Char) (text : String) : splitAt separator text ≠ [] := by
  rw [splitAt, ne_eq, List.map_eq_nil_iff]
  exact List.splitOn_ne_nil separator text.toList

theorem length_splitAt (separator : Char) (text : String) :
    (splitAt separator text).length = text.toList.count separator + 1 := by
  rw [splitAt, List.length_map]
  induction text.toList with
  | nil => rfl
  | cons c chars ih =>
      rw [List.splitOn] at ih ⊢
      rw [List.splitOnP_cons_eq_if_modifyHead]
      by_cases same : c = separator
      · simp [same, ih]
      · simp [same, ih]

theorem splitAt_eq_append {separator : Char} {text left right : String}
    (parts : text.toList = left.toList ++ separator :: right.toList) :
    splitAt separator text = splitAt separator left ++ splitAt separator right := by
  rw [splitAt, parts, List.splitOn, List.splitOnP_append_cons _ _ (by simp), List.map_append]
  rfl

theorem joinLines_cons (line : String) {lines : List String} (more : lines ≠ []) :
    joinLines (line :: lines) = line ++ "\n" ++ joinLines lines := by
  cases lines with
  | nil => exact absurd rfl more
  | cons second rest => rw [joinLines, String.intercalate_cons_cons, joinLines]

theorem joinLines_append {left right : List String} (some : left ≠ []) (more : right ≠ []) :
    joinLines (left ++ right) = joinLines left ++ "\n" ++ joinLines right := by
  induction left with
  | nil => exact absurd rfl some
  | cons line left ih =>
      cases left with
      | nil =>
          have single : joinLines [line] = line := String.intercalate_singleton
          rw [List.singleton_append, joinLines_cons line more, single]
      | cons second left =>
          rw [List.cons_append, joinLines_cons line (by simp), ih (by simp),
            joinLines_cons line (by simp)]
          simp only [String.append_assoc]

theorem joinLines_concat_append (front : List String) (last ending : String) :
    joinLines (front ++ [last]) ++ ending = joinLines (front ++ [last ++ ending]) := by
  have single (line : String) : joinLines [line] = line := String.intercalate_singleton
  by_cases none : front = []
  · rw [none, List.nil_append, List.nil_append, single, single]
  · rw [joinLines_append none (by simp), joinLines_append none (by simp), single, single,
      String.append_assoc]

/-- Lines that were joined before stand among the others like single ones. -/
theorem joinLines_joined {front lines back : List String} (before : front ≠ []) (some : lines ≠ [])
    (after : back ≠ []) :
    joinLines (front ++ joinLines lines :: back) = joinLines (front ++ lines ++ back) := by
  rw [joinLines_append before (by simp), joinLines_cons _ after,
    joinLines_append (by simp [some]) after, joinLines_append before some]
  simp only [String.append_assoc]

/-- What follows the last line feed is a line without anything. -/
theorem terminated_eq_joinLines {lines : List String} (some : lines ≠ []) :
    terminated lines = joinLines (lines ++ [""]) := by
  rw [terminated, joinLines_append some (by simp)]
  simp [joinLines]

/-- A line feed inside a line breaks it in turn. -/
theorem splitAt_joinLines {lines : List String} (nonempty : lines ≠ []) :
    splitAt '\n' (joinLines lines) = lines.flatMap (splitAt '\n') := by
  induction lines with
  | nil => exact absurd rfl nonempty
  | cons line rest ih =>
      by_cases last : rest = []
      · simp [last, joinLines]
      · rw [joinLines_cons line last, List.flatMap_cons, ← ih last]
        exact splitAt_eq_append (by simp)

theorem splitAt_of_not_mem {separator : Char} {text : String} (free : separator ∉ text.toList) :
    splitAt separator text = [text] := by
  have single : text.toList.splitOn separator = [text.toList] := by
    refine List.splitOnP_eq_singleton fun c present => ?_
    simpa using fun same : c = separator => free (same ▸ present)
  simp [splitAt, single]

theorem splitAt_joinLines_of_not_mem {lines : List String} (nonempty : lines ≠ [])
    (whole : ∀ line ∈ lines, '\n' ∉ line.toList) : splitAt '\n' (joinLines lines) = lines := by
  rw [splitAt_joinLines nonempty]
  calc lines.flatMap (splitAt '\n')
    _ = lines.flatMap fun line => [line] :=
        List.flatMap_congr fun line listed => splitAt_of_not_mem (whole line listed)
    _ = lines := List.flatMap_singleton' lines

theorem not_mem_of_mem_splitAt {separator : Char} {text piece : String}
    (listed : piece ∈ splitAt separator text) : separator ∉ piece.toList := by
  obtain ⟨chars, found, rfl⟩ := List.mem_map.1 listed
  rw [String.toList_ofList]
  have each : ∀ chars ∈ text.toList.splitOn separator, separator ∉ chars := by
    induction text.toList with
    | nil => simp
    | cons c rest ih =>
        rw [List.splitOn_cons_eq_if_modifyHead]
        obtain ⟨first, others, pieces⟩ :=
          List.exists_cons_of_ne_nil (List.splitOn_ne_nil separator rest)
        rw [pieces] at ih ⊢
        rw [List.forall_mem_cons] at ih
        split
        · exact List.forall_mem_cons.2 ⟨List.not_mem_nil, List.forall_mem_cons.2 ih⟩
        · next other =>
            have apart : separator ≠ c := fun same => other (by simp [same])
            exact List.forall_mem_cons.2 ⟨by simp [apart, ih.1], ih.2⟩
  exact each chars found

/-- A last line without a line feed in it is split off whatever the lines before it are. -/
theorem splitAt_joinLines_concat {lines : List String} (nonempty : lines ≠ []) {line : String}
    (whole : '\n' ∉ line.toList) :
    splitAt '\n' (joinLines (lines ++ [line])) = splitAt '\n' (joinLines lines) ++ [line] := by
  rw [splitAt_joinLines (by simp), splitAt_joinLines nonempty, List.flatMap_append,
    List.flatMap_singleton, splitAt_of_not_mem whole]

theorem joinLines_splitAt (text : String) : joinLines (splitAt '\n' text) = text := by
  apply String.toList_injective
  have feed : "\n".toList = ['\n'] := rfl
  rw [joinLines, String.toList_intercalate, splitAt, List.map_map, feed]
  simp [Function.comp_def]

/-- What stands before the first separator goes on into the first piece. -/
theorem splitAt_append_of_not_mem {separator : Char} {front : String}
    (free : separator ∉ front.toList) (text : String) :
    ∃ first rest, splitAt separator text = first :: rest ∧
      splitAt separator (front ++ text) = (front ++ first) :: rest := by
  obtain ⟨first, rest, pieces⟩ :=
    List.exists_cons_of_ne_nil (List.splitOn_ne_nil separator text.toList)
  have longer : ∀ chars : List Char, separator ∉ chars →
      (chars ++ text.toList).splitOn separator = (chars ++ first) :: rest := by
    intro chars
    induction chars with
    | nil => exact fun _ => pieces
    | cons c chars ih =>
        intro free
        rw [List.mem_cons, not_or] at free
        have rest := ih free.2
        rw [List.splitOn] at rest ⊢
        rw [List.cons_append, List.splitOnP_cons_eq_if_modifyHead,
          if_neg (by simpa using fun same : c = separator => free.1 same.symm), rest]
        rfl
  refine ⟨String.ofList first, rest.map String.ofList, by simp [splitAt, pieces], ?_⟩
  rw [splitAt, String.toList_append, longer front.toList free]
  simp

/-- The last three lines, backwards. -/
theorem reverse_splitAt_joinLines {front : List String} (nonempty : front ≠ [])
    {third second last : String} (thirdWhole : '\n' ∉ third.toList)
    (secondWhole : '\n' ∉ second.toList) (lastWhole : '\n' ∉ last.toList) :
    (splitAt '\n' (joinLines (front ++ [third, second, last]))).reverse =
      last :: second :: third :: (splitAt '\n' (joinLines front)).reverse := by
  have lines : front ++ [third, second, last] = ((front ++ [third]) ++ [second]) ++ [last] := by
    simp
  rw [lines, splitAt_joinLines_concat (by simp) lastWhole,
    splitAt_joinLines_concat (by simp) secondWhole, splitAt_joinLines_concat nonempty thirdWhole]
  simp

theorem trimEndChars_append {drop : Char → Bool} {kept dropped : List Char}
    (keeps : ∀ c, kept.getLast? = some c → drop c = false) (drops : ∀ c ∈ dropped, drop c = true) :
    trimEndChars drop (kept ++ dropped) = kept := by
  have stops : kept.reverse.dropWhile drop = kept.reverse := by
    cases backwards : kept.reverse with
    | nil => rfl
    | cons last others =>
        have final : kept.getLast? = some last := by
          rw [← List.head?_reverse, backwards]
          rfl
        rw [List.dropWhile_cons_of_neg (by simp [keeps last final])]
  rw [trimEndChars, List.reverse_append,
    List.dropWhile_append_of_pos fun c present => drops c (List.mem_reverse.1 present), stops,
    List.reverse_reverse]

theorem exists_append_trimEndWhere (drop : Char → Bool) (text : String) :
    ∃ dropped, (∀ c ∈ dropped, drop c = true) ∧
      text.toList = (trimEndWhere drop text).toList ++ dropped := by
  refine ⟨(text.toList.reverse.takeWhile drop).reverse, fun c present => ?_, ?_⟩
  · exact List.all_eq_true.1 List.all_takeWhile c (List.mem_reverse.1 present)
  · rw [trimEndWhere, String.toList_ofList, trimEndChars, ← List.reverse_append,
      List.takeWhile_append_dropWhile, List.reverse_reverse]

/-! ## Blank lines -/

theorem isBlankLine_append (left right : String) :
    isBlankLine (left ++ right) = (isBlankLine left && isBlankLine right) := by
  rw [isBlankLine, String.toList_append, List.all_append, isBlankLine, isBlankLine]

theorem isBlankLine_joinLines (lines : List String) :
    isBlankLine (joinLines lines) = lines.all isBlankLine := by
  induction lines with
  | nil => rfl
  | cons line rest ih =>
      by_cases last : rest = []
      · simp [last, joinLines]
      · have feed : isBlankLine "\n" = true := by decide
        rw [joinLines_cons line last, isBlankLine_append, isBlankLine_append, feed, Bool.and_true,
          ih, List.all_cons]

/-- A line feed is blank, so a text is blank as a whole or line by line. -/
theorem all_isBlankLine_splitAt (text : String) :
    (splitAt '\n' text).all isBlankLine = isBlankLine text := by
  rw [← isBlankLine_joinLines, joinLines_splitAt]

/-- Taking blanks from the end of a text leaves it as blank as it was. -/
theorem isBlankLine_trimEndWhere {drop : Char → Bool}
    (blank : ∀ c, drop c = true → isBlank c = true) (text : String) :
    isBlankLine (trimEndWhere drop text) = isBlankLine text := by
  obtain ⟨dropped, drops, parts⟩ := exists_append_trimEndWhere drop text
  have gone : dropped.all isBlank = true :=
    List.all_eq_true.2 fun c present => blank c (drops c present)
  rw [isBlankLine, isBlankLine, parts, List.all_append, gone, Bool.and_true]

/-! ## Words -/

theorem splitAt_append (left right : String) :
    splitAt ' ' (left ++ " " ++ right) = splitAt ' ' left ++ splitAt ' ' right :=
  splitAt_eq_append (by simp)

theorem not_mem_intercalate {c : Char} {separator : String} {words : List String}
    (outside : c ∉ separator.toList) (each : ∀ word ∈ words, c ∉ word.toList) :
    c ∉ (separator.intercalate words).toList := by
  induction words with
  | nil => simp
  | cons word rest ih =>
      obtain ⟨here, later⟩ := List.forall_mem_cons.1 each
      cases rest with
      | nil => rwa [String.intercalate_singleton]
      | cons next others =>
          rw [String.intercalate_cons_cons, String.toList_append, String.toList_append,
            List.mem_append, List.mem_append]
          rintro ((first | between) | after)
          · exact here first
          · exact outside between
          · exact ih later after

theorem splitAt_intercalate {words : List String} (some : words ≠ [])
    (unspaced : ∀ word ∈ words, ' ' ∉ word.toList) :
    splitAt ' ' (" ".intercalate words) = words := by
  induction words with
  | nil => exact absurd rfl some
  | cons word words ih =>
      have first := splitAt_of_not_mem (unspaced word List.mem_cons_self)
      cases words with
      | nil => rw [String.intercalate_singleton, first]
      | cons second words =>
          rw [String.intercalate_cons_cons, splitAt_append, first,
            ih (by simp) fun other present => unspaced other (List.mem_cons_of_mem word present)]
          rfl

/-- There is something in the text, and white space is not what it ends with. -/
def EndsSolid (text : String) : Prop :=
  ∃ c, text.toList.getLast? = some c ∧ isBlank c = false

theorem EndsSolid.append (left : String) {right : String} (solid : EndsSolid right) :
    EndsSolid (left ++ right) := by
  obtain ⟨c, last, dark⟩ := solid
  refine ⟨c, ?_, dark⟩
  rw [String.toList_append, List.getLast?_append, last]
  rfl

theorem EndsSolid.trimEnd_eq {text : String} (solid : EndsSolid text) {blanks : String}
    (blank : ∀ c ∈ blanks.toList, isBlank c = true) : trimEnd (text ++ blanks) = text := by
  obtain ⟨c, last, dark⟩ := solid
  have keeps : ∀ d, text.toList.getLast? = some d → isBlank d = false := by
    intro d final
    cases last.symm.trans final
    exact dark
  rw [trimEnd, trimEndWhere, String.toList_append, trimEndChars_append keeps blank,
    String.ofList_toList]

theorem EndsSolid.intercalate {words : List String} (some : words ≠ [])
    (solid : ∀ word ∈ words, EndsSolid word) : EndsSolid (" ".intercalate words) := by
  induction words with
  | nil => exact absurd rfl some
  | cons word words ih =>
      cases words with
      | nil => exact String.intercalate_singleton ▸ solid word List.mem_cons_self
      | cons second words =>
          rw [String.intercalate_cons_cons]
          exact (ih (by simp) fun other present =>
            solid other (List.mem_cons_of_mem word present)).append _

/-- A line of words that has lost the space after the last one if no words follow. -/
theorem splitAt_trimEnd {front : String} {words : List String} (solid : EndsSolid front)
    (unspaced : ∀ word ∈ words, ' ' ∉ word.toList) (ends : ∀ word ∈ words, EndsSolid word) :
    splitAt ' ' (trimEnd (front ++ " " ++ " ".intercalate words)) =
      splitAt ' ' front ++ words := by
  cases words with
  | nil =>
      have space : ∀ c ∈ " ".toList, isBlank c = true := List.forall_mem_singleton.2 rfl
      rw [String.intercalate_nil, String.append_empty, solid.trimEnd_eq space, List.append_nil]
  | cons word words =>
      have whole := ((EndsSolid.intercalate (by simp) ends).append (front ++ " ")).trimEnd_eq
        (show ∀ c ∈ "".toList, isBlank c = true by simp)
      rw [String.append_empty] at whole
      rw [whole, splitAt_append, splitAt_intercalate (by simp) unspaced]

/-! ## Marks -/

/-- What comes before the first mark, and what follows it. -/
def upTo? (mark : Char) : List Char → Option (List Char × List Char)
  | [] => none
  | c :: rest =>
      if c = mark then some ([], rest)
      else (upTo? mark rest).map fun (before, after) => (c :: before, after)

/-- What stands between two marks, and what follows the second. -/
def enclosed? (mark : Char) : List Char → Option (List Char × List Char)
  | [] => none
  | c :: rest => if c = mark then upTo? mark rest else none

theorem upTo?_append {mark : Char} {text : List Char} (free : mark ∉ text) (rest : List Char) :
    upTo? mark (text ++ mark :: rest) = some (text, rest) := by
  induction text with
  | nil => simp [upTo?]
  | cons c text ih =>
      have apart : c ≠ mark := fun same => free (same ▸ List.mem_cons_self)
      have later : mark ∉ text := fun found => free (List.mem_cons_of_mem c found)
      rw [List.cons_append, upTo?, if_neg apart, ih later]
      rfl

theorem enclosed?_append {mark : Char} {text : List Char} (free : mark ∉ text) (rest : List Char) :
    enclosed? mark (mark :: text ++ mark :: rest) = some (text, rest) := by
  rw [List.cons_append, enclosed?, if_pos rfl, upTo?_append free]

/-! ## Frames -/

/-- What stands between an opening and a closing text. -/
def between? (opening closing text : String) : Option String := do
  let rest ← opening.toList.isPrefixOf? text.toList
  let inside ← closing.toList.isSuffixOf? rest
  return String.ofList inside

theorem between?_append (opening closing inside : String) :
    between? opening closing (opening ++ inside ++ closing) = some inside := by
  have rest : opening.toList.isPrefixOf? (opening.toList ++ (inside.toList ++ closing.toList)) =
      some (inside.toList ++ closing.toList) :=
    List.isPrefixOf?_eq_some_iff_append_eq.2 rfl
  have ending : closing.toList.isSuffixOf? (inside.toList ++ closing.toList) = some inside.toList :=
    List.isSuffixOf?_eq_some_iff_append_eq.2 rfl
  rw [between?, String.append_assoc, String.toList_append, String.toList_append, rest]
  simp [ending]

theorem between?_start (opening inside : String) :
    between? opening "" (opening ++ inside) = some inside := by
  simpa using between?_append opening "" inside

theorem between?_eq_none {opening text : String} (apart : ¬ opening.toList <+: text.toList)
    (closing : String) : between? opening closing text = none := by
  cases found : opening.toList.isPrefixOf? text.toList with
  | none => simp [between?, found]
  | some rest => exact absurd ⟨rest, List.isPrefixOf?_eq_some_iff_append_eq.1 found⟩ apart

theorem mapM_between? (opening closing : String) (texts : List String) :
    (texts.map fun text => opening ++ text ++ closing).mapM (between? opening closing) =
      some texts := by
  induction texts with
  | nil => rfl
  | cons text texts ih =>
      rw [List.map_cons, List.mapM_cons, between?_append, ih]
      rfl

section Between

/-- What stands between two marks in the lines of a text. -/
def foundBetween (opening closing text : String) : List String :=
  (splitAt '\n' text).filterMap (between? opening closing)

variable {opening closing : String}

theorem foundBetween_joinLines {lines : List String} (nonempty : lines ≠ []) :
    foundBetween opening closing (joinLines lines) =
      lines.flatMap (foundBetween opening closing) := by
  rw [foundBetween, splitAt_joinLines nonempty, List.filterMap_flatMap]
  rfl

theorem foundBetween_append {inside rest : String} {others : List String}
    (whole : '\n' ∉ (opening ++ inside).toList) (ends : splitAt '\n' rest = closing :: others) :
    foundBetween opening closing (opening ++ inside ++ rest) =
      inside :: others.filterMap (between? opening closing) := by
  obtain ⟨first, later, pieces, joined⟩ := splitAt_append_of_not_mem whole rest
  cases ends.symm.trans pieces
  rw [foundBetween, joined, List.filterMap_cons_some (between?_append opening closing inside)]

theorem foundBetween_eq_nil {lines : List String}
    (each : ∀ line ∈ lines, '\n' ∉ line.toList ∧ ¬ opening.toList <+: line.toList) :
    lines.flatMap (foundBetween opening closing) = [] := by
  rw [List.flatMap_eq_nil_iff]
  intro line listed
  obtain ⟨whole, apart⟩ := each line listed
  rw [foundBetween, splitAt_of_not_mem whole]
  simp [between?_eq_none apart]

/-- One line of a text has something between the two, and no other line has. -/
theorem foundBetween_eq_singleton {front back : List String} {inside rest : String}
    (others : List String) (before : front.flatMap (foundBetween opening closing) = [])
    (whole : '\n' ∉ (opening ++ inside).toList) (ends : splitAt '\n' rest = closing :: others)
    (behind : others.filterMap (between? opening closing) = [])
    (after : back.flatMap (foundBetween opening closing) = []) :
    foundBetween opening closing (joinLines (front ++ (opening ++ inside ++ rest) :: back)) =
      [inside] := by
  rw [foundBetween_joinLines (by simp), List.flatMap_append, List.flatMap_cons, before,
    foundBetween_append whole ends, behind, after]
  rfl

end Between

end ShellMenu.Text
