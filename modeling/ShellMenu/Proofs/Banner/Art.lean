import Mathlib.Data.List.DropRight
import Mathlib.Data.List.Forall2
import ShellMenu.Banner
import ShellMenu.Proofs.Text.LineEnds

/-
  Trimmed lettering. No line of it has white space at its end and the last one has something in it,
  so there is nothing left to trim, and putting a line feed between the lines makes no line end that
  was not there: a line that ended in a carriage return has lost it.
-/

namespace ShellMenu

namespace Text

/-- White space is not what the text ends with; it may be empty. -/
def Unpadded (text : String) : Prop :=
  ∀ c, text.toList.getLast? = some c → isBlank c = false

/-- What is left of a line without the white space at its end. -/
structure Stripped (line left : String) : Prop where
  unpadded : Unpadded left
  dropped : ∃ blanks : String, isBlankLine blanks = true ∧ line = left ++ blanks

theorem trimEnd_eq_rdropWhile (text : String) :
    (trimEnd text).toList = text.toList.rdropWhile isBlank := by
  rw [trimEnd, trimEndWhere, String.toList_ofList]
  rfl

theorem kept_of_getLast?_rdropWhile {α : Type} {drop : α → Bool} {items : List α} {last : α}
    (final : (items.rdropWhile drop).getLast? = some last) : drop last = false := by
  rw [List.rdropWhile, List.getLast?_reverse] at final
  have stops := List.head?_dropWhile_not drop items.reverse
  rw [final] at stops
  simpa using stops

theorem unpadded_trimEnd (text : String) : Unpadded (trimEnd text) := by
  intro c last
  rw [trimEnd_eq_rdropWhile] at last
  exact kept_of_getLast?_rdropWhile last

theorem stripped_trimEnd (line : String) : Stripped line (trimEnd line) := by
  refine ⟨unpadded_trimEnd line, ?_⟩
  obtain ⟨blanks, drops, parts⟩ := exists_append_trimEndWhere isBlank line
  refine ⟨String.ofList blanks, by simpa [isBlankLine] using drops, ?_⟩
  apply String.toList_injective
  rw [parts, String.toList_append, String.toList_ofList]
  rfl

theorem Unpadded.trimEnd_eq {text : String} (unpadded : Unpadded text) : trimEnd text = text := by
  apply String.toList_injective
  rw [trimEnd_eq_rdropWhile, List.rdropWhile_eq_self_iff]
  intro some
  simp [unpadded _ (List.getLast?_eq_some_getLast some)]

theorem Unpadded.isBlankLine_eq {text : String} (unpadded : Unpadded text) :
    isBlankLine text = isEmpty text := by
  rw [isBlankLine, isEmpty]
  cases last : text.toList.getLast? with
  | none => rw [List.getLast?_eq_none_iff.1 last]; rfl
  | some c =>
      have present : c ∈ text.toList := List.mem_of_getLast? last
      rw [List.isEmpty_eq_false_iff.2 (List.ne_nil_of_mem present), List.all_eq_false]
      exact ⟨c, present, by simp [unpadded c last]⟩

theorem isEmpty_trimEnd (text : String) : isEmpty (trimEnd text) = isBlankLine text := by
  rw [← (unpadded_trimEnd text).isBlankLine_eq]
  exact isBlankLine_trimEndWhere (fun _ blank => blank) text

end Text

namespace Banner

open Text

/-- The lines up to the last one that is not blank, and each without the blanks at its end. -/
theorem trimArt_eq (art : String) :
    trimArt art = ((splitAt '\n' (fromCrlf art)).rdropWhile isBlankLine).map trimEnd := by
  have blank : isEmpty ∘ trimEnd = isBlankLine := funext isEmpty_trimEnd
  rw [trimArt, ← List.map_reverse, List.dropWhile_map, blank, ← List.map_reverse]
  rfl

theorem unpadded_of_mem_trimArt {art line : String} (listed : line ∈ trimArt art) :
    Unpadded line := by
  rw [trimArt_eq] at listed
  obtain ⟨whole, _, rfl⟩ := List.mem_map.1 listed
  exact unpadded_trimEnd whole

theorem newline_not_mem_of_mem_trimArt {art line : String} (listed : line ∈ trimArt art) :
    '\n' ∉ line.toList := by
  rw [trimArt_eq] at listed
  obtain ⟨whole, kept, rfl⟩ := List.mem_map.1 listed
  have free := not_mem_of_mem_splitAt ((List.rdropWhile_prefix isBlankLine _).mem kept)
  rw [trimEnd_eq_rdropWhile]
  exact fun present => free ((List.rdropWhile_prefix isBlank _).mem present)

theorem getLast?_trimArt (art : String) : (trimArt art).getLast? ≠ some "" := by
  intro last
  have filled : isEmpty "" = false := kept_of_getLast?_rdropWhile last
  exact absurd filled (by decide)

/-- Lines that are trimmed stay as they are. -/
theorem trimArt_joinLines {lines : List String} (whole : ∀ line ∈ lines, '\n' ∉ line.toList)
    (unpadded : ∀ line ∈ lines, Unpadded line) (filled : lines.getLast? ≠ some "") :
    trimArt (joinLines lines) = lines := by
  have unended : ∀ line ∈ lines, line.toList.getLast? ≠ some '\r' := by
    intro line listed ends
    exact absurd (unpadded line listed '\r' ends) (by decide)
  rw [trimArt_eq, fromCrlf_joinLines whole unended]
  by_cases none : lines = []
  · subst none
    decide +kernel
  · have kept : lines.rdropWhile isBlankLine = lines := by
      rw [List.rdropWhile_eq_self_iff]
      intro some blank
      have listed := List.getLast_mem some
      rw [(unpadded _ listed).isBlankLine_eq] at blank
      apply filled
      rw [List.getLast?_eq_some_getLast some, String.toList_eq_nil_iff.1 (List.isEmpty_iff.1 blank)]
    have trimmed : lines.map trimEnd = lines.map id :=
      List.map_congr_left fun line listed => (unpadded line listed).trimEnd_eq
    rw [splitAt_joinLines_of_not_mem none whole, kept, trimmed, List.map_id]

theorem forall₂_map_trimEnd (lines : List String) :
    List.Forall₂ Stripped lines (lines.map trimEnd) := by
  rw [List.forall₂_map_right_iff]
  exact List.forall₂_same.2 fun line _ => stripped_trimEnd line

/-- The lettering is what is left of its lines up to the last one that is not blank. No line of it
ends in white space, and trimming gives the same once more if the lines are put together again, or
if the line ends have carriage returns. -/
theorem trimArt_normal_form (art : String) :
    (∀ line ∈ trimArt art, Unpadded line) ∧ (trimArt art).getLast? ≠ some "" ∧
    (∃ kept blank, splitAt '\n' (replaceAll "\r\n" "\n" art) = kept ++ blank ∧
      (∀ line ∈ blank, isBlankLine line = true) ∧
      (∀ line, kept.getLast? = some line → isBlankLine line = false) ∧
      List.Forall₂ Stripped kept (trimArt art)) ∧
    trimArt (joinLines (trimArt art)) = trimArt art ∧
    trimArt (toCrlf art) = trimArt art := by
  refine ⟨fun _ => unpadded_of_mem_trimArt, getLast?_trimArt art, ?_, ?_, ?_⟩
  · refine ⟨(splitAt '\n' (fromCrlf art)).rdropWhile isBlankLine,
      (splitAt '\n' (fromCrlf art)).rtakeWhile isBlankLine,
      List.rdropWhile_append_rtakeWhile.symm, fun _ => List.mem_rtakeWhile_imp,
      fun _ => kept_of_getLast?_rdropWhile, ?_⟩
    rw [trimArt_eq]
    exact forall₂_map_trimEnd _
  · exact trimArt_joinLines (fun _ => newline_not_mem_of_mem_trimArt)
      (fun _ => unpadded_of_mem_trimArt) (getLast?_trimArt art)
  · rw [trimArt, fromCrlf_toCrlf, ← trimArt]

end Banner

end ShellMenu
