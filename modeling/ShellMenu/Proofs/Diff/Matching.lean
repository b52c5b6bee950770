import Mathlib.Data.List.Basic
import Mathlib.Order.Basic
import ShellMenu.Diff.Matching

/-
  What the matcher finds. Every run that it keeps track of is made of equal lines and lies in the
  window that is looked at, whatever lines are popular. So the matches it ends with follow each
  other in both texts. Two equal texts are matched as a whole.
-/

namespace ShellMenu.Diff

/-! ## Equal lines -/

namespace Pair

/-- `count` lines are the same, from a place of the old and from one of the new text on. -/
def Agrees (pair : Pair) (old new count : Nat) : Prop :=
  ∀ step < count, pair.same (old + step) (new + step) = true

/-- Only equal lines are listed as places. -/
def Faithful (pair : Pair) : Prop :=
  ∀ line, ∀ place ∈ pair.places[line]?.getD [], pair.same line place = true

variable {pair : Pair} {old new count : Nat}

theorem Agrees.none : pair.Agrees old new 0 :=
  fun _ below => absurd below (Nat.not_lt_zero _)

theorem Agrees.cons (first : pair.same old new = true)
    (others : pair.Agrees (old + 1) (new + 1) count) : pair.Agrees old new (count + 1) := by
  intro step below
  cases step with
  | zero => exact first
  | succ step =>
      have later := others step (by omega)
      rwa [Nat.add_right_comm old, Nat.add_right_comm new] at later

theorem Agrees.append {more : Nat} (first : pair.Agrees old new count)
    (second : pair.Agrees (old + count) (new + count) more) :
    pair.Agrees old new (count + more) := by
  intro step below
  by_cases early : step < count
  · exact first step early
  · have later := second (step - count) (by omega)
    rwa [Nat.add_assoc, Nat.add_assoc, Nat.add_sub_cancel' (by omega)] at later

theorem Agrees.concat (first : pair.Agrees old new count)
    (last : pair.same (old + count) (new + count) = true) : pair.Agrees old new (count + 1) :=
  first.append (Agrees.cons last Agrees.none)

theorem same_eq_true_iff : pair.same old new = true ↔
    ∃ line, pair.old[old]? = some line ∧ pair.new[new]? = some line := by
  unfold same
  cases left : pair.old[old]? with
  | none => simp
  | some line =>
      cases right : pair.new[new]? with
      | none => simp
      | some other => simp [@eq_comm _ line]

end Pair

theorem mem_placesOf_iff {lines : List String} {line : String} {place : Nat} :
    place ∈ placesOf lines line ↔ lines[place]? = some line := by
  simp only [placesOf, List.mem_map, List.mem_filter, beq_iff_eq, Prod.exists,
    exists_eq_right, List.mk_mem_zipIdx_iff_getElem?]

theorem places_ofLists (old new : List String) (line : Nat) :
    (Pair.ofLists old new).places[line]?.getD [] =
      (old[line]?.map fun text =>
        if isPopular new text then [] else placesOf new text).getD [] := by
  simp [Pair.ofLists]

theorem faithful_ofLists (old new : List String) : (Pair.ofLists old new).Faithful := by
  intro line place listed
  rw [places_ofLists] at listed
  cases there : old[line]? with
  | none => simp [there] at listed
  | some text =>
      simp only [there, Option.map_some, Option.getD_some] at listed
      split at listed
      · cases listed
      · have found := mem_placesOf_iff.1 listed
        exact Pair.same_eq_true_iff.2
          ⟨text, by simp [Pair.ofLists, there], by simp [Pair.ofLists, found]⟩

/-! ## Runs -/

/-- The match is made of equal lines and lies in the window. -/
structure Pair.Fits (pair : Pair) (window : Window) (found : Match) : Prop where
  oldLow : window.oldLow ≤ found.old
  oldHigh : found.old + found.size ≤ window.oldHigh
  newLow : window.newLow ≤ found.new
  newHigh : found.new + found.size ≤ window.newHigh
  agrees : pair.Agrees found.old found.new found.size

/-- A run that ends right before the line `line` of the old text. -/
def Pair.RunEnds (pair : Pair) (window : Window) (line : Nat) (run : Nat × Nat) : Prop :=
  ∃ old new, old + run.2 = line ∧ new + run.2 = run.1 + 1 ∧ pair.Fits window ⟨old, new, run.2⟩

/-- The state of a scan when the lines of the old text before `line` are done. -/
structure Pair.Scanned (pair : Pair) (window : Window) (line : Nat) (state : Runs × Match) :
    Prop where
  runs : ∀ run ∈ state.1, pair.RunEnds window line run
  best : pair.Fits window state.2

theorem Runs.mem_of_before {runs : Runs} {place : Nat} (some : runs.before place ≠ 0) :
    ∃ earlier, place = earlier + 1 ∧ (earlier, runs.before place) ∈ runs := by
  cases place with
  | zero => exact absurd rfl some
  | succ earlier =>
      refine ⟨earlier, rfl, ?_⟩
      rw [before] at some ⊢
      cases found : runs.lookup earlier with
      | none => simp [found] at some
      | some count =>
          obtain ⟨front, back, parts, _⟩ := List.lookup_eq_some_iff.1 found
          simp [parts]

namespace Pair

variable {pair : Pair} {window : Window} {line : Nat}

theorem fits_better {best : Match} {run : Nat × Nat} (fits : pair.Fits window best)
    (ends : pair.RunEnds window (line + 1) run) :
    pair.Fits window (better line best run) := by
  unfold better
  split
  · obtain ⟨old, new, oldEnd, newEnd, found⟩ := ends
    rwa [← oldEnd, ← newEnd, Nat.add_sub_cancel, Nat.add_sub_cancel]
  · exact fits

theorem fits_foldl_better {runs : Runs} {best : Match} (fits : pair.Fits window best)
    (ends : ∀ run ∈ runs, pair.RunEnds window (line + 1) run) :
    pair.Fits window (runs.foldl (better line) best) := by
  induction runs generalizing best with
  | nil => exact fits
  | cons run runs ih =>
      obtain ⟨first, others⟩ := List.forall_mem_cons.1 ends
      exact ih (fits_better fits first) others

section Scanning

variable (above : window.oldLow ≤ line) (below : line < window.oldHigh)
include above below

/-- A run goes on from the place before, or starts. -/
theorem runEnds_next {runs : Runs} (ends : ∀ run ∈ runs, pair.RunEnds window line run)
    {place : Nat} (same : pair.same line place = true) (low : window.newLow ≤ place)
    (high : place < window.newHigh) :
    pair.RunEnds window (line + 1) (place, runs.before place + 1) := by
  by_cases starts : runs.before place = 0
  · rw [starts]
    exact ⟨line, place, rfl, rfl, above, below, low, high, Agrees.cons same Agrees.none⟩
  · obtain ⟨earlier, rfl, listed⟩ := Runs.mem_of_before starts
    obtain ⟨old, new, oldEnd, newEnd, fits⟩ := ends _ listed
    generalize runs.before (earlier + 1) = count at *
    have oldNext : old + (count + 1) = line + 1 := congrArg (· + 1) oldEnd
    have newNext : new + (count + 1) = earlier + 1 + 1 := congrArg (· + 1) newEnd
    have longer : pair.Agrees old new (count + 1) :=
      fits.agrees.concat (by rwa [oldEnd, newEnd])
    exact ⟨old, new, oldNext, newNext, fits.oldLow, oldNext.trans_le below, fits.newLow,
      newNext.trans_le high, longer⟩

theorem scanned_scanLine (faithful : pair.Faithful) {state : Runs × Match}
    (scanned : pair.Scanned window line state) :
    pair.Scanned window (line + 1) (pair.scanLine window state line) := by
  have ends : ∀ run ∈ (pair.scanLine window state line).1,
      pair.RunEnds window (line + 1) run := by
    intro run listed
    simp only [scanLine, Runs.next, List.mem_map, List.mem_filter, Bool.and_eq_true,
      decide_eq_true_eq] at listed
    obtain ⟨place, ⟨there, low, high⟩, rfl⟩ := listed
    exact runEnds_next above below scanned.runs (faithful line place there) low high
  exact ⟨ends, fits_foldl_better scanned.best ends⟩

end Scanning

theorem scanned_foldl (faithful : pair.Faithful) (count : Nat) {state : Runs × Match}
    (scanned : pair.Scanned window line state) (above : window.oldLow ≤ line)
    (below : line + count ≤ window.oldHigh) :
    pair.Scanned window (line + count)
      ((List.range' line count).foldl (pair.scanLine window) state) := by
  induction count generalizing line state with
  | zero => exact scanned
  | succ count ih =>
      rw [List.range'_succ, List.foldl_cons, Nat.add_comm count, ← Nat.add_assoc]
      exact ih (scanned_scanLine above (by omega) faithful scanned) (by omega) (by omega)

/-! ## The longest run -/

theorem fits_longestRun (faithful : pair.Faithful) (oldOrder : window.oldLow ≤ window.oldHigh)
    (newOrder : window.newLow ≤ window.newHigh) : pair.Fits window (pair.longestRun window) := by
  have start : pair.Scanned window window.oldLow ([], ⟨window.oldLow, window.newLow, 0⟩) :=
    ⟨by simp, Nat.le_refl _, oldOrder, Nat.le_refl _, newOrder, Agrees.none⟩
  exact (scanned_foldl faithful _ start (Nat.le_refl _) (by omega)).best

theorem fits_extendBack {old new size : Nat} (fits : pair.Fits window ⟨old, new, size⟩) :
    pair.Fits window (pair.extendBack window old new size) := by
  fun_induction extendBack pair window old new size with
  | case1 old new size more ih =>
      simp only [Bool.and_eq_true, decide_eq_true_eq] at more
      obtain ⟨⟨oldMore, newMore⟩, same⟩ := more
      have oldEnd : old + (size + 1) = old + 1 + size := by omega
      have newEnd : new + (size + 1) = new + 1 + size := by omega
      exact ih ⟨Nat.le_of_lt_succ oldMore, oldEnd.trans_le fits.oldHigh, Nat.le_of_lt_succ newMore,
        newEnd.trans_le fits.newHigh, Agrees.cons same fits.agrees⟩
  | case2 old new size stop => exact fits
  | case3 old new size stop => exact fits

theorem agrees_equalAhead (limit old new : Nat) :
    pair.Agrees old new (pair.equalAhead limit old new) ∧
      pair.equalAhead limit old new ≤ limit := by
  induction limit generalizing old new with
  | zero => exact ⟨Agrees.none, Nat.le_refl 0⟩
  | succ limit ih =>
      rw [equalAhead]
      split
      · next same =>
          obtain ⟨agrees, within⟩ := ih (old + 1) (new + 1)
          exact ⟨Agrees.cons same agrees, Nat.succ_le_succ within⟩
      · exact ⟨Agrees.none, Nat.zero_le _⟩

/-- The run with the equal lines behind it. -/
def extendAhead (pair : Pair) (window : Window) (run : Match) : Match :=
  let limit := min (window.oldHigh - (run.old + run.size)) (window.newHigh - (run.new + run.size))
  { run with size := run.size + pair.equalAhead limit (run.old + run.size) (run.new + run.size) }

theorem longest_eq (pair : Pair) (window : Window) :
    pair.longest window = pair.extendAhead window (pair.extendBack window
      (pair.longestRun window).old (pair.longestRun window).new (pair.longestRun window).size) :=
  rfl

theorem fits_extendAhead {run : Match} (fits : pair.Fits window run) :
    pair.Fits window (pair.extendAhead window run) := by
  obtain ⟨oldLow, oldHigh, newLow, newHigh, inside⟩ := fits
  obtain ⟨agrees, within⟩ := pair.agrees_equalAhead
    (min (window.oldHigh - (run.old + run.size)) (window.newHigh - (run.new + run.size)))
    (run.old + run.size) (run.new + run.size)
  refine ⟨oldLow, ?_, newLow, ?_, inside.append agrees⟩
  · show run.old + (run.size + _) ≤ window.oldHigh
    omega
  · show run.new + (run.size + _) ≤ window.newHigh
    omega

theorem fits_longest (faithful : pair.Faithful) (oldOrder : window.oldLow ≤ window.oldHigh)
    (newOrder : window.newLow ≤ window.newHigh) : pair.Fits window (pair.longest window) := by
  rw [longest_eq]
  exact fits_extendAhead (fits_extendBack (fits_longestRun faithful oldOrder newOrder))

end Pair

/-! ## Matches in order -/

/-- `Aligned pair old new matches oldEnd newEnd`: from one place in both texts to another, the
matches follow each other in both, each made of equal lines. -/
inductive Pair.Aligned (pair : Pair) : Nat → Nat → List Match → Nat → Nat → Prop
  | nil {old new oldEnd newEnd : Nat} :
      old ≤ oldEnd → new ≤ newEnd → Aligned pair old new [] oldEnd newEnd
  | cons {old new oldEnd newEnd : Nat} {found : Match} {rest : List Match} :
      old ≤ found.old → new ≤ found.new → pair.Agrees found.old found.new found.size →
      Aligned pair (found.old + found.size) (found.new + found.size) rest oldEnd newEnd →
      Aligned pair old new (found :: rest) oldEnd newEnd

namespace Pair

variable {pair : Pair}

theorem Aligned.append {old new oldMiddle newMiddle oldEnd newEnd : Nat} {left right : List Match}
    (first : pair.Aligned old new left oldMiddle newMiddle)
    (second : pair.Aligned oldMiddle newMiddle right oldEnd newEnd) :
    pair.Aligned old new (left ++ right) oldEnd newEnd := by
  induction first with
  | nil oldOrder newOrder =>
      cases second with
      | nil oldMore newMore =>
          exact .nil (Nat.le_trans oldOrder oldMore) (Nat.le_trans newOrder newMore)
      | cons oldMore newMore agrees rest =>
          exact .cons (Nat.le_trans oldOrder oldMore) (Nat.le_trans newOrder newMore) agrees rest
  | cons oldOrder newOrder agrees _ ih => exact .cons oldOrder newOrder agrees (ih second)

theorem aligned_matchesIn (faithful : pair.Faithful) (fuel : Nat) (window : Window)
    (oldOrder : window.oldLow ≤ window.oldHigh) (newOrder : window.newLow ≤ window.newHigh) :
    pair.Aligned window.oldLow window.newLow (pair.matchesIn fuel window)
      window.oldHigh window.newHigh := by
  induction fuel generalizing window with
  | zero => exact .nil oldOrder newOrder
  | succ fuel ih =>
      have fits := fits_longest faithful oldOrder newOrder
      rw [matchesIn]
      generalize pair.longest window = found at fits ⊢
      split
      · exact .nil oldOrder newOrder
      · have before := ih { window with oldHigh := found.old, newHigh := found.new }
          fits.oldLow fits.newLow
        have behind := ih
          { window with oldLow := found.old + found.size, newLow := found.new + found.size }
          fits.oldHigh fits.newHigh
        exact before.append (.cons (Nat.le_refl _) (Nat.le_refl _) fits.agrees behind)

/-- Joining matches that touch leaves them in order. -/
theorem aligned_mergeTouching {old new oldEnd newEnd : Nat} {current : Match} {rest : List Match}
    (aligned : pair.Aligned old new (current :: rest) oldEnd newEnd) :
    pair.Aligned old new (mergeTouching current rest) oldEnd newEnd := by
  fun_induction mergeTouching current rest generalizing old new with
  | case1 current empty =>
      cases aligned with
      | cons oldOrder newOrder _ rest =>
          cases rest with
          | nil oldMore newMore => exact .nil (by omega) (by omega)
  | case2 current filled => exact aligned
  | case3 current next rest touch ih =>
      simp only [Bool.and_eq_true, decide_eq_true_eq] at touch
      cases aligned with
      | cons oldOrder newOrder agrees rest =>
          cases rest with
          | cons _ _ others rest =>
              rw [← touch.1, ← touch.2] at others rest
              refine ih (.cons oldOrder newOrder (agrees.append others) ?_)
              rwa [← Nat.add_assoc, ← Nat.add_assoc]
  | case4 current next rest apart empty ih =>
      cases aligned with
      | cons oldOrder newOrder _ rest =>
          cases rest with
          | cons oldMore newMore others rest =>
              exact ih (.cons (by omega) (by omega) others rest)
  | case5 current next rest apart filled ih =>
      cases aligned with
      | cons oldOrder newOrder agrees rest => exact .cons oldOrder newOrder agrees (ih rest)

end Pair

theorem aligned_matching (old new : List String) :
    (Pair.ofLists old new).Aligned 0 0 (matching old new) old.length new.length := by
  have found := Pair.aligned_matchesIn (faithful_ofLists old new) (old.length + 1)
    ⟨0, old.length, 0, new.length⟩ (Nat.zero_le _) (Nat.zero_le _)
  exact Pair.aligned_mergeTouching (.cons (Nat.le_refl 0) (Nat.le_refl 0) Pair.Agrees.none found)

/-! ## Equal texts -/

/-- How many lines right before `line` are not popular. -/
def streak (lines : List String) : Nat → Nat
  | 0 => 0
  | line + 1 =>
      match lines[line]? with
      | some text => if isPopular lines text then 0 else streak lines line + 1
      | none => 0

/-- The state of a scan of a text against itself. No run is longer than the streak of lines that it
ends in, in either text, so the runs at one place of both are the longest, and one of them is the
first to become the best. -/
structure Diagonal (lines : List String) (line : Nat) (state : Runs × Match) : Prop where
  bounded : ∀ run ∈ state.1, run.2 ≤ streak lines line ∧ run.2 ≤ streak lines (run.1 + 1)
  reached : state.1.before line = streak lines line
  longest : ∀ earlier ≤ line, streak lines earlier ≤ state.2.size
  level : state.2.old = state.2.new

theorem streak_succ {lines : List String} {line : Nat} {text : String}
    (there : lines[line]? = some text) (rare : isPopular lines text = false) :
    streak lines (line + 1) = streak lines line + 1 := by
  simp [streak, there, rare]

theorem streak_succ_of_isPopular {lines : List String} {line : Nat} {text : String}
    (there : lines[line]? = some text) (popular : isPopular lines text = true) :
    streak lines (line + 1) = 0 := by
  simp [streak, there, popular]

theorem before_le {runs : Runs} {place bound : Nat}
    (bounded : ∀ earlier count, (earlier, count) ∈ runs → place = earlier + 1 → count ≤ bound) :
    runs.before place ≤ bound := by
  by_cases starts : runs.before place = 0
  · rw [starts]
    exact Nat.zero_le bound
  · obtain ⟨earlier, here, listed⟩ := Runs.mem_of_before starts
    exact bounded earlier _ listed here

theorem pairwise_placesOf (lines : List String) (line : String) :
    (placesOf lines line).Pairwise (· < ·) := by
  have sorted : (lines.zipIdx.map Prod.snd).Pairwise (· < ·) := by
    rw [List.zipIdx_map_snd]
    exact List.pairwise_lt_range'
  exact sorted.sublist (List.filter_sublist.map Prod.snd)

theorem foldl_better_eq_self {line : Nat} {runs : Runs} {best : Match}
    (bounded : ∀ run ∈ runs, run.2 ≤ best.size) : runs.foldl (better line) best = best := by
  induction runs with
  | nil => rfl
  | cons run runs ih =>
      obtain ⟨first, others⟩ := List.forall_mem_cons.1 bounded
      rw [List.foldl_cons, better, if_neg (Nat.not_lt.2 first), ih others]

theorem lookup_map_pair {place : Nat} {places : List Nat} (count : Nat → Nat)
    (listed : place ∈ places) :
    (places.map fun place => (place, count place)).lookup place = some (count place) := by
  induction places with
  | nil => cases listed
  | cons first rest ih =>
      by_cases same : place = first
      · simp [same]
      · have unlike : (place == first) = false := by simp [same]
        rw [List.map_cons, List.lookup_cons, unlike]
        exact ih ((List.mem_cons.1 listed).resolve_left same)

section Equal

variable {lines : List String} {line : Nat}

/-- The part of a text and of itself that is all of both. -/
abbrev whole (lines : List String) : Window := ⟨0, lines.length, 0, lines.length⟩

theorem next_eq_map {text : String} (runs : Runs) :
    runs.next (whole lines) (placesOf lines text) =
      (placesOf lines text).map fun place => (place, runs.before place + 1) := by
  rw [Runs.next, List.filter_eq_self.2]
  intro place listed
  obtain ⟨below, _⟩ := List.getElem?_eq_some_iff.1 (mem_placesOf_iff.1 listed)
  simp [below]

theorem better_level (line : Nat) {best : Match} (level : best.old = best.new) (count : Nat) :
    (better line best (line, count)).old = (better line best (line, count)).new ∧
      best.size ≤ (better line best (line, count)).size ∧
      count ≤ (better line best (line, count)).size := by
  unfold better
  split
  · next longer => exact ⟨rfl, Nat.le_of_lt longer, Nat.le_refl count⟩
  · next shorter => exact ⟨level, Nat.le_refl _, Nat.not_lt.1 shorter⟩

theorem diagonal_scanLine_of_popular {state : Runs × Match} (diagonal : Diagonal lines line state)
    {text : String} (there : lines[line]? = some text) (popular : isPopular lines text = true) :
    Diagonal lines (line + 1)
      ((Pair.ofLists lines lines).scanLine (whole lines) state line) := by
  have scanned : (Pair.ofLists lines lines).scanLine (whole lines) state line = ([], state.2) := by
    simp [Pair.scanLine, places_ofLists, there, popular, Runs.next]
  have ended := streak_succ_of_isPopular there popular
  rw [scanned]
  refine ⟨by simp, by simp [ended, Runs.before], fun earlier below => ?_, diagonal.level⟩
  rcases Nat.le_or_eq_of_le_succ below with before | rfl
  · exact diagonal.longest earlier before
  · rw [ended]
    exact Nat.zero_le _

section Rare

variable {runs : Runs} {best : Match} (diagonal : Diagonal lines line (runs, best)) {text : String}
  (there : lines[line]? = some text) (rare : isPopular lines text = false)
include diagonal there rare

theorem before_bounded {place : Nat} (listed : place ∈ placesOf lines text) :
    runs.before place + 1 ≤ streak lines (line + 1) ∧
      runs.before place + 1 ≤ streak lines (place + 1) := by
  rw [streak_succ there rare, streak_succ (mem_placesOf_iff.1 listed) rare]
  constructor
  · exact Nat.succ_le_succ (before_le fun earlier count known _ => (diagonal.bounded _ known).1)
  · exact Nat.succ_le_succ (before_le fun earlier count known here =>
      here ▸ (diagonal.bounded _ known).2)

/-- The places before this one have had their turn, and those behind it do no better. -/
theorem foldl_better_places :
    ((placesOf lines text).map fun place => (place, runs.before place + 1)).foldl
      (better line) best = better line best (line, runs.before line + 1) := by
  obtain ⟨front, back, parts⟩ := List.append_of_mem (mem_placesOf_iff.2 there)
  have sorted := pairwise_placesOf lines text
  rw [parts, List.pairwise_append] at sorted
  have bounded : ∀ place ∈ front ++ line :: back, _ := fun place listed =>
    before_bounded diagonal there rare (parts ▸ listed)
  have early : ∀ run ∈ front.map fun place => (place, runs.before place + 1),
      run.2 ≤ best.size := by
    intro run listed
    obtain ⟨place, inFront, rfl⟩ := List.mem_map.1 listed
    have before : place < line := sorted.2.2 place inFront line List.mem_cons_self
    exact Nat.le_trans (bounded place (List.mem_append_left _ inFront)).2
      (diagonal.longest (place + 1) before)
  have late : ∀ run ∈ back.map fun place => (place, runs.before place + 1),
      run.2 ≤ (better line best (line, runs.before line + 1)).size := by
    intro run listed
    obtain ⟨place, inBack, rfl⟩ := List.mem_map.1 listed
    have limit := (bounded place (List.mem_append_right _ (List.mem_cons_of_mem line inBack))).1
    rw [streak_succ there rare, ← diagonal.reached] at limit
    exact Nat.le_trans limit (better_level line diagonal.level _).2.2
  rw [parts, List.map_append, List.foldl_append, foldl_better_eq_self early, List.map_cons,
    List.foldl_cons, foldl_better_eq_self late]

theorem diagonal_scanLine_of_rare :
    Diagonal lines (line + 1)
      ((Pair.ofLists lines lines).scanLine (whole lines) (runs, best) line) := by
  have scanned : (Pair.ofLists lines lines).scanLine (whole lines) (runs, best) line =
      ((placesOf lines text).map fun place => (place, runs.before place + 1),
        better line best (line, runs.before line + 1)) := by
    rw [← foldl_better_places diagonal there rare]
    simp [Pair.scanLine, places_ofLists, there, rare, next_eq_map]
  obtain ⟨level, kept, taken⟩ := better_level line diagonal.level (runs.before line + 1)
  have longer := streak_succ there rare
  rw [scanned]
  refine ⟨fun run listed => ?_, ?_, fun earlier below => ?_, level⟩
  · obtain ⟨place, known, rfl⟩ := List.mem_map.1 listed
    exact before_bounded diagonal there rare known
  · rw [Runs.before, lookup_map_pair _ (mem_placesOf_iff.2 there), longer, ← diagonal.reached]
    rfl
  · rcases Nat.le_or_eq_of_le_succ below with before | rfl
    · exact Nat.le_trans (diagonal.longest earlier before) kept
    · rw [longer, ← diagonal.reached]
      exact taken

end Rare

theorem diagonal_scanLine {state : Runs × Match} (diagonal : Diagonal lines line state)
    (below : line < lines.length) :
    Diagonal lines (line + 1)
      ((Pair.ofLists lines lines).scanLine (whole lines) state line) := by
  have there := List.getElem?_eq_getElem below
  cases popular : isPopular lines lines[line] with
  | false => exact diagonal_scanLine_of_rare diagonal there popular
  | true => exact diagonal_scanLine_of_popular diagonal there popular

theorem diagonal_foldl (count : Nat) {state : Runs × Match} (diagonal : Diagonal lines line state)
    (below : line + count ≤ lines.length) :
    Diagonal lines (line + count) ((List.range' line count).foldl
      ((Pair.ofLists lines lines).scanLine (whole lines)) state) := by
  induction count generalizing line state with
  | zero => exact diagonal
  | succ count ih =>
      rw [List.range'_succ, List.foldl_cons, Nat.add_comm count, ← Nat.add_assoc]
      exact ih (diagonal_scanLine diagonal (by omega)) (by omega)

theorem longestRun_level (lines : List String) :
    ((Pair.ofLists lines lines).longestRun (whole lines)).old =
      ((Pair.ofLists lines lines).longestRun (whole lines)).new := by
  have start : Diagonal lines 0 ([], ⟨0, 0, 0⟩) := by
    refine ⟨by simp, rfl, fun earlier below => ?_, rfl⟩
    rw [Nat.le_zero.1 below]
    exact Nat.le_refl 0
  exact (diagonal_foldl lines.length start (by omega)).level

theorem same_self {place : Nat} (below : place < lines.length) :
    (Pair.ofLists lines lines).same place place = true :=
  Pair.same_eq_true_iff.2
    ⟨lines[place], by simp [Pair.ofLists, below], by simp [Pair.ofLists, below]⟩

theorem extendBack_self {place : Nat} (within : place ≤ lines.length) (size : Nat) :
    (Pair.ofLists lines lines).extendBack (whole lines) place place size =
      ⟨0, 0, size + place⟩ := by
  induction place generalizing size with
  | zero => rfl
  | succ place ih =>
      rw [Pair.extendBack, if_pos (by simp [same_self within]), ih (Nat.le_of_lt within),
        Nat.add_right_comm, Nat.add_assoc]

theorem equalAhead_self {limit place : Nat} (within : place + limit ≤ lines.length) :
    (Pair.ofLists lines lines).equalAhead limit place place = limit := by
  induction limit generalizing place with
  | zero => rfl
  | succ limit ih =>
      rw [Pair.equalAhead, if_pos (same_self (by omega)), ih (by omega)]

/-- The longest run of a text and itself is all of it, popular lines included. -/
theorem longest_self (lines : List String) :
    (Pair.ofLists lines lines).longest (whole lines) = ⟨0, 0, lines.length⟩ := by
  have fits : (Pair.ofLists lines lines).Fits (whole lines) _ :=
    Pair.fits_longestRun (faithful_ofLists lines lines) (Nat.zero_le _) (Nat.zero_le _)
  have inside := fits.newHigh
  simp only at inside
  rw [Pair.longest_eq, longestRun_level, extendBack_self (by omega), Pair.extendAhead]
  simp only [Nat.zero_add, Nat.min_self]
  rw [equalAhead_self (by omega)]
  simp only [Match.mk.injEq, true_and]
  omega

end Equal

theorem Pair.matchesIn_empty {pair : Pair} (faithful : pair.Faithful) (fuel old new : Nat) :
    pair.matchesIn fuel ⟨old, old, new, new⟩ = [] := by
  cases fuel with
  | zero => rfl
  | succ fuel =>
      have fits : pair.Fits ⟨old, old, new, new⟩ _ :=
        fits_longest faithful (Nat.le_refl _) (Nat.le_refl _)
      have oldLow := fits.oldLow
      have oldHigh := fits.oldHigh
      simp only at oldLow oldHigh
      rw [matchesIn, if_pos (by omega)]

theorem matching_self (lines : List String) :
    matching lines lines = if lines = [] then [] else [⟨0, 0, lines.length⟩] := by
  have faithful := faithful_ofLists lines lines
  simp only [matching, Pair.matchesIn, longest_self, Nat.zero_add]
  rw [Pair.matchesIn_empty faithful, Pair.matchesIn_empty faithful]
  cases lines with
  | nil => rfl
  | cons line rest => simp [mergeTouching]

end ShellMenu.Diff
