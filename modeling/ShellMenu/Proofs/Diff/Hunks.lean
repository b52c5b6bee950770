import Mathlib.Data.List.Induction
import ShellMenu.Diff.Unified
import ShellMenu.Proofs.Diff.Matching

/-
  From matches to hunks. The stretches between and in the matches follow each other without a gap in
  both texts. Grouping leaves out equal lines only, so each group is such a chain again, and between
  the groups the two texts agree. Applied to the old lines, the hunks therefore give the new ones.
-/

namespace ShellMenu.Diff

/-! ## Stretches -/

/-- An equal stretch. -/
def Edit.kept (old new count : Nat) : Edit :=
  ⟨true, old, old + count, new, new + count⟩

/-- `Chain pair old new edits oldEnd newEnd`: the stretches lead from one place in both texts to
another without a gap, and what is said to be equal is. -/
inductive Pair.Chain (pair : Pair) : Nat → Nat → List Edit → Nat → Nat → Prop
  | nil {old new : Nat} : Chain pair old new [] old new
  | kept {old new count oldEnd newEnd : Nat} {rest : List Edit} :
      pair.Agrees old new count → Chain pair (old + count) (new + count) rest oldEnd newEnd →
      Chain pair old new (.kept old new count :: rest) oldEnd newEnd
  | changed {old new oldNext newNext oldEnd newEnd : Nat} {rest : List Edit} :
      old ≤ oldNext → new ≤ newNext → Chain pair oldNext newNext rest oldEnd newEnd →
      Chain pair old new (⟨false, old, oldNext, new, newNext⟩ :: rest) oldEnd newEnd

namespace Pair

variable {pair : Pair} {old new oldEnd newEnd : Nat}

theorem Chain.le {edits : List Edit} (chain : pair.Chain old new edits oldEnd newEnd) :
    old ≤ oldEnd ∧ new ≤ newEnd := by
  induction chain with
  | nil => exact ⟨Nat.le_refl _, Nat.le_refl _⟩
  | kept _ _ ih => exact ⟨by omega, by omega⟩
  | changed oldOrder newOrder _ ih => exact ⟨by omega, by omega⟩

theorem Chain.append {oldMiddle newMiddle : Nat} {left right : List Edit}
    (first : pair.Chain old new left oldMiddle newMiddle)
    (second : pair.Chain oldMiddle newMiddle right oldEnd newEnd) :
    pair.Chain old new (left ++ right) oldEnd newEnd := by
  induction first with
  | nil => exact second
  | kept agrees _ ih => exact .kept agrees (ih second)
  | changed oldOrder newOrder _ ih => exact .changed oldOrder newOrder (ih second)

theorem exists_of_chain_append {left right : List Edit}
    (chain : pair.Chain old new (left ++ right) oldEnd newEnd) :
    ∃ oldMiddle newMiddle, pair.Chain old new left oldMiddle newMiddle ∧
      pair.Chain oldMiddle newMiddle right oldEnd newEnd := by
  induction left generalizing old new with
  | nil => exact ⟨old, new, .nil, chain⟩
  | cons edit left ih =>
      cases chain with
      | kept agrees rest =>
          obtain ⟨oldMiddle, newMiddle, first, second⟩ := ih rest
          exact ⟨oldMiddle, newMiddle, .kept agrees first, second⟩
      | changed oldOrder newOrder rest =>
          obtain ⟨oldMiddle, newMiddle, first, second⟩ := ih rest
          exact ⟨oldMiddle, newMiddle, .changed oldOrder newOrder first, second⟩

/-- A stretch that is empty in both texts is left out. -/
theorem chain_gap {oldNext newNext : Nat} {rest : List Edit} (oldOrder : old ≤ oldNext)
    (newOrder : new ≤ newNext) (chain : pair.Chain oldNext newNext rest oldEnd newEnd) :
    pair.Chain old new
      ((if old < oldNext || new < newNext then [⟨false, old, oldNext, new, newNext⟩] else [])
        ++ rest)
      oldEnd newEnd := by
  split
  · exact .changed oldOrder newOrder chain
  · next empty =>
      simp only [Bool.or_eq_true, decide_eq_true_eq, not_or, Nat.not_lt] at empty
      rw [Nat.le_antisymm oldOrder empty.1, Nat.le_antisymm newOrder empty.2]
      exact chain

theorem chain_editsFrom {found : List Match}
    (aligned : pair.Aligned old new found oldEnd newEnd) :
    pair.Chain old new (editsFrom oldEnd newEnd old new found) oldEnd newEnd := by
  induction aligned with
  | nil oldOrder newOrder =>
      rw [editsFrom, ← List.append_nil (ite _ _ _)]
      exact chain_gap oldOrder newOrder .nil
  | cons oldOrder newOrder agrees _ ih =>
      rw [editsFrom]
      exact chain_gap oldOrder newOrder (.kept agrees ih)

end Pair

theorem chain_edits (old new : List String) :
    (Pair.ofLists old new).Chain 0 0 (edits old new) old.length new.length :=
  Pair.chain_editsFrom (aligned_matching old new)

/-! ## Groups -/

/-- `Covers pair oldEnd newEnd old new groups`: from one place in both texts to their ends, each
group is a chain, and all that is left out lies before a group or behind the last one and is
equal. -/
inductive Pair.Covers (pair : Pair) (oldEnd newEnd : Nat) : Nat → Nat → List (List Edit) → Prop
  | done {old new count : Nat} : pair.Agrees old new count → old + count = oldEnd →
      new + count = newEnd → Covers pair oldEnd newEnd old new []
  | group {old new count oldNext newNext : Nat} {group : List Edit} {rest : List (List Edit)} :
      pair.Agrees old new count → pair.Chain (old + count) (new + count) group oldNext newNext →
      group ≠ [] → Covers pair oldEnd newEnd oldNext newNext rest →
      Covers pair oldEnd newEnd old new (group :: rest)

namespace Edit

theorem tail_kept (old new count : Nat) :
    (kept old new count).tail =
      kept (old + (count - context)) (new + (count - context)) (min count context) := by
  simp only [tail, kept, context, Edit.mk.injEq, true_and]
  omega

theorem head_kept (old new count : Nat) :
    (kept old new count).head = kept old new (min count context) := by
  simp only [head, kept, context, Edit.mk.injEq, true_and]
  omega

end Edit

namespace Pair

variable {pair : Pair} {old new oldEnd newEnd : Nat}

theorem Agrees.part {count : Nat} (agrees : pair.Agrees old new count) {first size : Nat}
    (within : first + size ≤ count) : pair.Agrees (old + first) (new + first) size := by
  intro step below
  have inside := agrees (first + step) (by omega)
  rwa [← Nat.add_assoc, ← Nat.add_assoc] at inside

theorem Agrees.front {count : Nat} (agrees : pair.Agrees old new count) {size : Nat}
    (within : size ≤ count) : pair.Agrees old new size :=
  fun step below => agrees step (Nat.lt_of_lt_of_le below within)

theorem chain_trimFirst {edits : List Edit} (chain : pair.Chain old new edits oldEnd newEnd) :
    ∃ count, pair.Agrees old new count ∧
      pair.Chain (old + count) (new + count) (trimFirst edits) oldEnd newEnd := by
  cases chain with
  | nil => exact ⟨0, Agrees.none, .nil⟩
  | @kept _ _ count _ _ rest agrees chain =>
      refine ⟨count - context, agrees.front (Nat.sub_le _ _), ?_⟩
      have first : trimFirst (.kept old new count :: rest) =
          (Edit.kept old new count).tail :: rest := rfl
      have whole : count - context + min count context = count := by omega
      rw [first, Edit.tail_kept]
      refine .kept (agrees.part (Nat.le_of_eq whole)) ?_
      rwa [Nat.add_assoc, Nat.add_assoc, whole]
  | changed oldOrder newOrder chain => exact ⟨0, Agrees.none, .changed oldOrder newOrder chain⟩

theorem chain_trimLast {edits : List Edit} (chain : pair.Chain old new edits oldEnd newEnd) :
    ∃ oldLast newLast count, pair.Chain old new (trimLast edits) oldLast newLast ∧
      pair.Agrees oldLast newLast count ∧ oldLast + count = oldEnd ∧ newLast + count = newEnd := by
  cases edits using List.reverseRecOn with
  | nil => exact ⟨oldEnd, newEnd, 0, chain, Agrees.none, rfl, rfl⟩
  | append_singleton front last =>
      have trimmed : trimLast (front ++ [last]) =
          front ++ [if last.same then last.head else last] := by simp [trimLast]
      obtain ⟨oldMiddle, newMiddle, first, second⟩ := exists_of_chain_append chain
      rw [trimmed]
      cases second with
      | @kept _ _ count _ _ _ agrees rest =>
          cases rest
          have short : pair.Chain oldMiddle newMiddle
              [(Edit.kept oldMiddle newMiddle count).head] (oldMiddle + min count context)
              (newMiddle + min count context) := by
            rw [Edit.head_kept]
            exact .kept (agrees.front (Nat.min_le_left _ _)) .nil
          have whole : min count context + (count - context) = count := by omega
          refine ⟨_, _, count - context, first.append short, agrees.part (Nat.le_of_eq whole),
            ?_, ?_⟩
          · rw [Nat.add_assoc, whole]
          · rw [Nat.add_assoc, whole]
      | changed oldOrder newOrder rest =>
          cases rest
          exact ⟨_, _, 0, first.append (.changed oldOrder newOrder .nil), Agrees.none, rfl, rfl⟩

/-- The last group is dropped only if it has equal lines alone. -/
theorem covers_last {count oldLast newLast : Nat} {group : List Edit}
    (gap : pair.Agrees old new count)
    (filled : pair.Chain (old + count) (new + count) group oldLast newLast)
    (rest : pair.Covers oldEnd newEnd oldLast newLast []) :
    pair.Covers oldEnd newEnd old new (groupsFrom group []) := by
  cases group with
  | nil =>
      cases filled
      cases rest with
      | done agrees oldDone newDone =>
          exact .done (gap.append agrees) (by omega) (by omega)
  | cons first others =>
      cases others with
      | nil =>
          cases filled with
          | kept same nothing =>
              cases nothing
              cases rest with
              | done agrees oldDone newDone =>
                  exact .done (gap.append (same.append agrees)) (by omega) (by omega)
          | changed oldOrder newOrder nothing =>
              exact .group gap (.changed oldOrder newOrder nothing) (by simp) rest
      | cons second others => exact .group gap filled (by simp) rest

theorem covers_groupsFrom {count oldNext newNext oldLast newLast : Nat} {group edits : List Edit}
    (gap : pair.Agrees old new count)
    (filled : pair.Chain (old + count) (new + count) group oldNext newNext)
    (chain : pair.Chain oldNext newNext edits oldLast newLast)
    (rest : pair.Covers oldEnd newEnd oldLast newLast []) :
    pair.Covers oldEnd newEnd old new (groupsFrom group edits) := by
  induction edits generalizing old new count oldNext newNext group with
  | nil =>
      cases chain
      exact covers_last gap filled rest
  | cons edit edits ih =>
      rw [groupsFrom]
      split
      · next long =>
          cases chain with
          | @kept _ _ size _ _ _ agrees chain =>
              have enough : context + context < size := by
                simpa [Edit.kept] using long
              have front : pair.Chain oldNext newNext [(Edit.kept oldNext newNext size).head]
                  (oldNext + min size context) (newNext + min size context) := by
                rw [Edit.head_kept]
                exact .kept (agrees.front (Nat.min_le_left _ _)) .nil
              have between : pair.Agrees (oldNext + min size context) (newNext + min size context)
                  (size - context - context) := agrees.part (by omega)
              have back : pair.Chain
                  (oldNext + min size context + (size - context - context))
                  (newNext + min size context + (size - context - context))
                  [(Edit.kept oldNext newNext size).tail] (oldNext + size) (newNext + size) := by
                have place : min size context + (size - context - context) = size - context := by
                  omega
                have whole : size - context + min size context = size := by omega
                rw [Edit.tail_kept, Nat.add_assoc, Nat.add_assoc, place]
                refine .kept (agrees.part (Nat.le_of_eq whole)) ?_
                rw [Nat.add_assoc, Nat.add_assoc, whole]
                exact .nil
              exact .group gap (filled.append front) (by simp) (ih between back chain)
          | changed oldOrder newOrder chain => simp at long
      · cases chain with
        | kept agrees chain => exact ih gap (filled.append (.kept agrees .nil)) chain
        | changed oldOrder newOrder chain =>
            exact ih gap (filled.append (.changed oldOrder newOrder .nil)) chain

end Pair

/-- Nothing but equal lines is left out of the groups. -/
theorem covers_groups (old new : List String) :
    (Pair.ofLists old new).Covers old.length new.length 0 0 (groups (edits old new)) := by
  obtain ⟨count, gap, trimmed⟩ := Pair.chain_trimFirst (chain_edits old new)
  obtain ⟨oldLast, newLast, more, chain, agrees, oldDone, newDone⟩ := Pair.chain_trimLast trimmed
  exact Pair.covers_groupsFrom gap .nil chain (.done agrees oldDone newDone)

/-! ## Applying hunks -/

/-- The lines that the old text should have. -/
def oldSide (lines : List (Mark × String)) : List String :=
  (lines.filter fun line => line.1 != .added).map Prod.snd

/-- The lines that the new text should have. -/
def newSide (lines : List (Mark × String)) : List String :=
  (lines.filter fun line => line.1 != .removed).map Prod.snd

/-- The hunk has as many lines of each text as it says. -/
structure Hunk.Measured (hunk : Hunk) : Prop where
  old : (oldSide hunk.lines).length = hunk.oldCount
  new : (newSide hunk.lines).length = hunk.newCount

/-- Applies hunks to the old lines from `old` on, when the new ones up to `new` are written. A hunk
starts behind the one before it, as far behind in the new text as in the old one, and its old lines
have to be there. -/
def applyFrom : (old new : Nat) → List String → List Hunk → Option (List String)
  | _, _, rest, [] => some rest
  | old, new, rest, hunk :: hunks =>
      let gap := hunk.oldStart - old
      if old ≤ hunk.oldStart ∧ gap ≤ rest.length ∧ hunk.newStart = new + gap
          ∧ (rest.drop gap).take hunk.oldCount = oldSide hunk.lines then
        (applyFrom (hunk.oldStart + hunk.oldCount) (hunk.newStart + hunk.newCount)
          (rest.drop (gap + hunk.oldCount)) hunks).map (rest.take gap ++ newSide hunk.lines ++ ·)
      else none

theorem oldSide_append (left right : List (Mark × String)) :
    oldSide (left ++ right) = oldSide left ++ oldSide right := by
  simp [oldSide]

theorem newSide_append (left right : List (Mark × String)) :
    newSide (left ++ right) = newSide left ++ newSide right := by
  simp [newSide]

theorem slice_self (lines : List String) (place : Nat) : slice lines place place = [] := by
  simp [slice]

theorem slice_append (lines : List String) {low middle high : Nat} (lower : low ≤ middle)
    (upper : middle ≤ high) : slice lines low middle ++ slice lines middle high =
      slice lines low high := by
  have whole : high - low = (middle - low) + (high - middle) := by omega
  have place : low + (middle - low) = middle := by omega
  rw [slice, slice, slice, whole, List.take_add, List.drop_drop, place]

theorem slice_append_drop (lines : List String) {low high : Nat} (order : low ≤ high) :
    slice lines low high ++ lines.drop high = lines.drop low := by
  have place : low + (high - low) = high := by omega
  rw [slice, ← place, ← List.drop_drop, Nat.add_sub_cancel_left, List.take_append_drop]

theorem length_slice {lines : List String} {low high : Nat} (inside : high ≤ lines.length) :
    (slice lines low high).length = high - low := by
  rw [slice, List.length_take, List.length_drop]
  omega

section Lines

variable {old new : List String} {i j oldEnd newEnd : Nat}

theorem slice_eq_of_agrees {count : Nat} (agrees : (Pair.ofLists old new).Agrees i j count) :
    slice old i (i + count) = slice new j (j + count) := by
  apply List.ext_getElem?
  intro step
  by_cases below : step < count
  · obtain ⟨line, left, right⟩ := Pair.same_eq_true_iff.1 (agrees step below)
    simp only [Pair.ofLists, List.getElem?_toArray] at left right
    simp [slice, below, left, right]
  · have past (lines : List String) (start : Nat) :
        (slice lines start (start + count))[step]? = none := by
      refine List.getElem?_eq_none ?_
      rw [slice, List.length_take, Nat.add_sub_cancel_left]
      exact Nat.le_trans (Nat.min_le_left _ _) (Nat.not_lt.1 below)
    rw [past, past]

/-- A chain of stretches shows what both texts have between its ends. -/
theorem sides_of_chain {group : List Edit}
    (chain : (Pair.ofLists old new).Chain i j group oldEnd newEnd) :
    oldSide (group.flatMap (Edit.marked old new)) = slice old i oldEnd ∧
      newSide (group.flatMap (Edit.marked old new)) = slice new j newEnd := by
  induction chain with
  | nil => simp [slice_self, oldSide, newSide]
  | @kept i j count oldEnd newEnd rest agrees chain ih =>
      obtain ⟨oldOrder, newOrder⟩ := chain.le
      have shown : Edit.marked old new (.kept i j count) =
          (slice old i (i + count)).map (Mark.kept, ·) := rfl
      rw [List.flatMap_cons, oldSide_append, newSide_append, ih.1, ih.2, shown,
        ← slice_append old (Nat.le_add_right i count) oldOrder,
        ← slice_append new (Nat.le_add_right j count) newOrder, ← slice_eq_of_agrees agrees]
      simp [oldSide, newSide, List.filter_map, Function.comp_def]
  | @changed i j oldNext newNext oldEnd newEnd rest oldFirst newFirst chain ih =>
      obtain ⟨oldOrder, newOrder⟩ := chain.le
      have shown : Edit.marked old new ⟨false, i, oldNext, j, newNext⟩ =
          (slice old i oldNext).map (Mark.removed, ·) ++
            (slice new j newNext).map (Mark.added, ·) := rfl
      rw [List.flatMap_cons, oldSide_append, newSide_append, ih.1, ih.2, shown,
        ← slice_append old oldFirst oldOrder, ← slice_append new newFirst newOrder]
      simp [oldSide, newSide, List.filter_map, Function.comp_def]

theorem head_of_chain {group : List Edit}
    (chain : (Pair.ofLists old new).Chain i j group oldEnd newEnd) :
    ∀ first ∈ group.head?, first.oldLow = i ∧ first.newLow = j := by
  cases chain with
  | nil => simp
  | kept agrees chain =>
      rintro first ⟨⟩
      exact ⟨rfl, rfl⟩
  | changed oldOrder newOrder chain =>
      rintro first ⟨⟩
      exact ⟨rfl, rfl⟩

theorem last_of_chain {group : List Edit}
    (chain : (Pair.ofLists old new).Chain i j group oldEnd newEnd) :
    ∀ last ∈ group.getLast?, last.oldHigh = oldEnd ∧ last.newHigh = newEnd := by
  induction chain with
  | nil => simp
  | kept agrees chain ih | changed oldOrder newOrder chain ih =>
      intro last final
      rw [List.getLast?_cons] at final
      cases chain with
      | nil =>
          cases final
          exact ⟨rfl, rfl⟩
      | kept _ _ | changed _ _ _ =>
          rw [List.getLast?_cons] at ih
          exact ih last (by simpa [List.getLast?_cons] using final)

theorem ofGroup_eq {group : List Edit} (filled : group ≠ [])
    (chain : (Pair.ofLists old new).Chain i j group oldEnd newEnd) :
    Hunk.ofGroup old new group =
      some ⟨i, oldEnd - i, j, newEnd - j, group.flatMap (Edit.marked old new)⟩ := by
  have first := head_of_chain chain _ (List.head?_eq_some_head filled)
  have last := last_of_chain chain _ (List.getLast?_eq_some_getLast filled)
  rw [Hunk.ofGroup, List.head?_eq_some_head filled, List.getLast?_eq_some_getLast filled]
  simp only [first, last]

theorem Pair.Covers.le {groups : List (List Edit)}
    (covers : (Pair.ofLists old new).Covers oldEnd newEnd i j groups) :
    i ≤ oldEnd ∧ j ≤ newEnd := by
  induction covers with
  | done agrees oldDone newDone => exact ⟨by omega, by omega⟩
  | group agrees chain _ _ ih =>
      obtain ⟨oldOrder, newOrder⟩ := chain.le
      exact ⟨by omega, by omega⟩

theorem applyFrom_of_covers {groups : List (List Edit)}
    (covers : (Pair.ofLists old new).Covers old.length new.length i j groups) :
    applyFrom i j (old.drop i) (groups.filterMap (Hunk.ofGroup old new)) = some (new.drop j) := by
  induction covers with
  | @done i j count agrees oldDone newDone =>
      have left := slice_append_drop old (Nat.le_add_right i count)
      have right := slice_append_drop new (Nat.le_add_right j count)
      rw [oldDone, List.drop_length, List.append_nil] at left
      rw [newDone, List.drop_length, List.append_nil] at right
      rw [List.filterMap_nil, applyFrom, ← left, ← right, ← oldDone, ← newDone,
        slice_eq_of_agrees agrees]
  | @group i j count oldNext newNext group rest gap chain filled covers ih =>
      obtain ⟨oldOrder, newOrder⟩ := chain.le
      obtain ⟨oldShown, newShown⟩ := sides_of_chain chain
      have inside := covers.le.1
      have oldPlace : i + count + (oldNext - (i + count)) = oldNext := Nat.add_sub_cancel' oldOrder
      have newPlace : j + count + (newNext - (j + count)) = newNext := Nat.add_sub_cancel' newOrder
      have skipped : (old.drop i).take count = slice new j (j + count) := by
        rw [← slice_eq_of_agrees gap, slice, Nat.add_sub_cancel_left]
      have there : ((old.drop i).drop count).take (oldNext - (i + count)) =
          oldSide (group.flatMap (Edit.marked old new)) := by
        rw [oldShown, List.drop_drop, slice]
      have within : count ≤ (old.drop i).length := by
        rw [List.length_drop]
        omega
      rw [List.filterMap_cons_some (ofGroup_eq filled chain), applyFrom]
      simp only [Nat.add_sub_cancel_left]
      rw [if_pos ⟨Nat.le_add_right i count, within, trivial, there⟩, oldPlace, newPlace, skipped,
        newShown, List.drop_drop, ← Nat.add_assoc, oldPlace, ih, Option.map_some,
        slice_append new (Nat.le_add_right j count) newOrder,
        slice_append_drop new (Nat.le_trans (Nat.le_add_right j count) newOrder)]

end Lines

/-- Applied to the old lines, the hunks give the new ones. -/
theorem applyFrom_hunks (old new : List String) :
    applyFrom 0 0 old (hunks old new) = some new :=
  applyFrom_of_covers (covers_groups old new)

theorem measured_of_covers {old new : List String} {i j : Nat} {groups : List (List Edit)}
    (covers : (Pair.ofLists old new).Covers old.length new.length i j groups) :
    ∀ hunk ∈ groups.filterMap (Hunk.ofGroup old new), hunk.Measured := by
  induction covers with
  | done => simp
  | group gap chain filled covers ih =>
      obtain ⟨oldShown, newShown⟩ := sides_of_chain chain
      obtain ⟨oldInside, newInside⟩ := covers.le
      rw [List.filterMap_cons_some (ofGroup_eq filled chain), List.forall_mem_cons]
      refine ⟨⟨?_, ?_⟩, ih⟩
      · rw [oldShown, length_slice oldInside]
      · rw [newShown, length_slice newInside]

theorem measured_hunks {old new : List String} {hunk : Hunk} (made : hunk ∈ hunks old new) :
    hunk.Measured :=
  measured_of_covers (covers_groups old new) hunk made

/-- An equal stretch alone makes no group, however long it is. -/
theorem groups_kept (old new count : Nat) : groups [.kept old new count] = [] := by
  have first : trimFirst [.kept old new count] = [(Edit.kept old new count).tail] := rfl
  have last : ∀ old new count, trimLast [.kept old new count] = [(Edit.kept old new count).head] :=
    fun _ _ _ => rfl
  have short : ∀ old new count, ¬ (Edit.kept old new (min count context)).oldHigh
      - (Edit.kept old new (min count context)).oldLow > context + context := by
    intro old new count
    simp only [Edit.kept]
    omega
  rw [groups, first, Edit.tail_kept, last, Edit.head_kept, groupsFrom, if_neg]
  · rfl
  · simpa using fun _ => short _ _ _

/-- Two texts with the same lines have no hunks, and only those. -/
theorem hunks_eq_nil_iff (old new : List String) : hunks old new = [] ↔ old = new := by
  constructor
  · intro none
    have applied := applyFrom_hunks old new
    rw [none] at applied
    exact Option.some.inj applied
  · rintro rfl
    rw [hunks, edits, matching_self]
    cases old with
    | nil => rfl
    | cons line rest =>
        have whole : editsFrom (line :: rest).length (line :: rest).length 0 0
            [⟨0, 0, (line :: rest).length⟩] = [.kept 0 0 (line :: rest).length] := by
          simp [editsFrom, Edit.kept]
        rw [if_neg (List.cons_ne_nil line rest), whole, groups_kept, List.filterMap_nil]

end ShellMenu.Diff
