import Mathlib.Data.List.Range
import Mathlib.Data.List.SplitBy
import ShellMenu.Banner
import ShellMenu.Proofs.Number.Rounding
import ShellMenu.Proofs.Text.Reading

/-
  The bands of a rainbow. All of them have the same height but the last one, which takes what is
  left: the rounding of the height keeps that close to the height of the others.
-/

namespace ShellMenu.Banner

/-! ## What is painted -/

/-- The colors are reset after the last line. -/
def lineEnding (count index : Nat) : String :=
  if index + 1 = count then Placeholder.braced "RESET" else ""

/-- One painted line for each line: it stands behind the color of its place in the palette. -/
structure Painted (height : Nat) (lines : List String) (places : List Nat)
    (painted : List String) : Prop where
  places_length : places.length = lines.length
  painted_length : painted.length = lines.length
  line_eq : ∀ (index : Nat) (line : String) (place : Nat),
    lines[index]? = some line → places[index]? = some place →
    ∃ color, palette[place]? = some color ∧ colorAt index height = .ok color ∧
      painted[index]? =
        some (Placeholder.braced color ++ line ++ lineEnding lines.length index)

/-- The places of lines of one color that stand together. -/
def bands (places : List Nat) : List (List Nat) :=
  places.splitBy (· == ·)

/-- One color comes after the other from the first one on, and every band that another one follows
has the height. -/
structure Banded (height : Nat) (places : List Nat) : Prop where
  start : places.head? = some 0
  steps : places.IsChain fun place next => next = place ∨ next = place + 1
  within : ∀ place ∈ places, place ≤ 5
  full : ∀ band ∈ (bands places).dropLast, band.length = height

/-! ## How it is painted -/

/-- A sixth of the lines, to the nearest, and at least one. -/
def bandHeight (count : Nat) : Nat :=
  max 1 ((count + 3) / 6)

/-- The place in the palette of the color of a line. -/
def bandPlace (height index : Nat) : Nat :=
  min (index / height) (palette.length - 1)

def bandColor (index height : Nat) : String :=
  palette.getD (bandPlace height index) ""

def bandPlaces (height count : Nat) : List Nat :=
  (List.range count).map (bandPlace height)

/-- The first colors of the palette, each for some lines. -/
def bandRuns (size : Nat → Nat) (colors : Nat) : List (List Nat) :=
  (List.range colors).map fun place => List.replicate (size place) place

/-! ## The height -/

theorem bandHeight_pos (count : Nat) : 1 ≤ bandHeight count :=
  Nat.le_max_left _ _

theorem bandHeight_balanced {count : Nat} (enough : 3 ≤ count) :
    6 * bandHeight count ≤ count + 3 ∧ count ≤ 6 * bandHeight count + 2 := by
  rw [bandHeight]
  omega

theorem roundDouble_eq {value : Binary64} {whole : Int}
    (floor : value.addHalf.floor? = some whole) : roundDouble value = .ok whole := by
  cases value with
  | nan => cases floor
  | finite negative significand exponent => simp only [roundDouble, floor]
  | infinite negative => cases floor

/-- Neither of the two roundings in double precision shows. -/
theorem stride_eq {count : Nat} (few : count < 2 ^ 50) :
    stride count = .ok (bandHeight count : Int) := by
  have colors : palette.length = 6 := rfl
  have unsigned : decide ((count : Int) < 0) = false := decide_eq_false (by omega)
  have floor : (Binary64.ofRatio false count 6).addHalf.floor? =
      some (((count + 3) / 6 : Nat) : Int) :=
    Binary64.floor?_addHalf_ofRatio (by decide) (by omega) (by omega) (by omega)
  have height : max 1 (((count + 3) / 6 : Nat) : Int) = (bandHeight count : Int) := by
    rw [bandHeight]
    omega
  rw [stride, colors, unsigned, Int.natAbs_natCast, roundDouble_eq floor, ← height]
  rfl

/-! ## The bands -/

section Bands

variable {height : Nat}

theorem bandPlace_add {place offset : Nat} (inside : offset < height) (color : place ≤ 5) :
    bandPlace height (place * height + offset) = place := by
  have below : place * height + offset < (place + 1) * height := by
    rw [Nat.succ_mul]
    omega
  rw [bandPlace, Nat.div_eq_of_lt_le (Nat.le_add_right _ _) below]
  exact Nat.min_eq_left color

/-- Beyond the last color it stays the last. -/
theorem bandPlace_last {index : Nat} (positive : 0 < height) (above : 5 * height ≤ index) :
    bandPlace height index = 5 := by
  have most : 5 ≤ index / height := (Nat.le_div_iff_mul_le positive).2 above
  exact Nat.min_eq_right most

theorem bandPlace_le (height index : Nat) : bandPlace height index ≤ 5 :=
  Nat.min_le_right _ _

theorem bandPlace_succ (height index : Nat) :
    bandPlace height (index + 1) = bandPlace height index ∨
      bandPlace height (index + 1) = bandPlace height index + 1 := by
  have next := @Nat.succ_div index height
  have last : palette.length - 1 = 5 := rfl
  rw [bandPlace, bandPlace, last]
  split at next
  · omega
  · omega

theorem bandPlaces_add (height start count : Nat) :
    bandPlaces height (start + count) = bandPlaces height start ++
      (List.range count).map fun offset => bandPlace height (start + offset) := by
  rw [bandPlaces, List.range_add, List.map_append, List.map_map]
  rfl

theorem map_bandPlace {start count place : Nat}
    (same : ∀ offset < count, bandPlace height (start + offset) = place) :
    (List.range count).map (fun offset => bandPlace height (start + offset)) =
      List.replicate count place := by
  rw [List.eq_replicate_iff]
  refine ⟨by simp, fun found listed => ?_⟩
  obtain ⟨offset, within, rfl⟩ := List.mem_map.1 listed
  exact same offset (List.mem_range.1 within)

theorem bandRuns_succ (size : Nat → Nat) (colors : Nat) :
    bandRuns size (colors + 1) =
      bandRuns size colors ++ [List.replicate (size colors) colors] := by
  rw [bandRuns, List.range_succ, List.map_append]
  rfl

theorem bandPlaces_mul {size : Nat → Nat} {colors : Nat} (within : colors ≤ 5)
    (full : ∀ place < colors, size place = height) :
    bandPlaces height (colors * height) = (bandRuns size colors).flatten := by
  induction colors with
  | zero => simp [bandPlaces, bandRuns]
  | succ colors ih =>
      have band : ∀ offset < height, bandPlace height (colors * height + offset) = colors :=
        fun offset inside => bandPlace_add inside (by omega)
      have before := ih (by omega) fun place earlier => full place (by omega)
      rw [Nat.succ_mul, bandPlaces_add, map_bandPlace band, before, bandRuns_succ,
        List.flatten_append, List.flatten_singleton, full colors (Nat.lt_succ_self colors)]

theorem bandPlaces_eq {size : Nat → Nat} {last : Nat} (positive : 0 < height) (within : last ≤ 5)
    (full : ∀ place < last, size place = height) (ends : last = 5 ∨ size last ≤ height) :
    bandPlaces height (last * height + size last) = (bandRuns size (last + 1)).flatten := by
  have band : ∀ offset < size last, bandPlace height (last * height + offset) = last := by
    intro offset inside
    rcases ends with rfl | short
    · exact bandPlace_last positive (Nat.le_add_right _ _)
    · exact bandPlace_add (Nat.lt_of_lt_of_le inside short) within
  rw [bandPlaces_add, map_bandPlace band, bandPlaces_mul within full, bandRuns_succ,
    List.flatten_append, List.flatten_singleton]

/-- Neighbours differ in color, so the bands are told apart. -/
theorem bands_bandRuns {size : Nat → Nat} (filled : ∀ place, 0 < size place) (colors : Nat) :
    bands (bandRuns size colors).flatten = bandRuns size colors := by
  have nonempty (place : Nat) : List.replicate (size place) place ≠ [] :=
    fun none => Nat.ne_of_gt (filled place) ((List.replicate_eq_nil_iff place).1 none)
  refine List.splitBy_flatten ?_ ?_ ?_
  · intro empty
    obtain ⟨place, _, none⟩ := List.mem_map.1 empty
    exact nonempty place none
  · intro band listed
    obtain ⟨place, _, rfl⟩ := List.mem_map.1 listed
    exact List.isChain_replicate_of_rel _ (beq_self_eq_true place)
  · rw [bandRuns, List.isChain_map, List.isChain_range]
    intro place _
    refine ⟨nonempty place, nonempty (place + 1), ?_⟩
    simp

/-- Where the last band begins. -/
theorem exists_last_band {count : Nat} (positive : 0 < height) (nonzero : 0 < count) :
    ∃ last rest, count = last * height + rest ∧ 0 < rest ∧ last ≤ 5 ∧
      (last = 5 ∨ rest ≤ height) := by
  by_cases many : 5 * height < count
  · exact ⟨5, count - 5 * height, by omega, by omega, Nat.le_refl 5, Or.inl rfl⟩
  · refine ⟨(count - 1) / height, (count - 1) % height + 1, ?_, Nat.succ_pos _, ?_, Or.inr ?_⟩
    · have parts := Nat.div_add_mod' (count - 1) height
      omega
    · have within : (count - 1) / height < 5 := by
        rw [Nat.div_lt_iff_lt_mul positive]
        omega
      omega
    · exact Nat.mod_lt _ positive

theorem exists_bands {count : Nat} (positive : 0 < height) (nonzero : 0 < count) :
    ∃ size last, count = last * height + size last ∧ last ≤ 5 ∧
      (last = 5 ∨ size last ≤ height) ∧ (∀ place < last, size place = height) ∧
      bands (bandPlaces height count) = bandRuns size (last + 1) := by
  obtain ⟨last, rest, parts, left, within, ends⟩ := exists_last_band positive nonzero
  let size (place : Nat) : Nat := if place < last then height else rest
  have final : size last = rest := if_neg (Nat.lt_irrefl last)
  have full (place : Nat) (before : place < last) : size place = height := if_pos before
  have filled (place : Nat) : 0 < size place := by
    by_cases before : place < last
    · rwa [full place before]
    · rwa [show size place = rest from if_neg before]
  refine ⟨size, last, by rw [final, parts], within, by rwa [final], full, ?_⟩
  rw [parts, ← final, bandPlaces_eq positive within full (by rwa [final]), bands_bandRuns filled]

theorem banded_bandPlaces {count : Nat} (positive : 0 < height) (nonzero : 0 < count) :
    Banded height (bandPlaces height count) := by
  refine ⟨?_, ?_, ?_, ?_⟩
  · obtain ⟨more, rfl⟩ := Nat.exists_eq_add_one.2 nonzero
    rw [bandPlaces, List.range_succ_eq_map]
    simp [bandPlace]
  · rw [bandPlaces, List.isChain_map, List.isChain_range]
    exact fun index _ => bandPlace_succ height index
  · intro place listed
    obtain ⟨index, _, rfl⟩ := List.mem_map.1 listed
    exact bandPlace_le height index
  · obtain ⟨size, last, _, _, _, full, runs⟩ := exists_bands positive nonzero
    intro band listed
    rw [runs, bandRuns_succ, List.dropLast_concat] at listed
    obtain ⟨place, before, rfl⟩ := List.mem_map.1 listed
    rw [List.length_replicate, full place (List.mem_range.1 before)]

/-- With enough lines the last color is reached, and its band is about as high as the others. -/
theorem last_band_balanced {count : Nat} (many : 21 ≤ count) :
    (∀ place ≤ 5, place ∈ bandPlaces (bandHeight count) count) ∧
      ∃ last, (bands (bandPlaces (bandHeight count) count)).getLast? = some last ∧
        bandHeight count - 3 ≤ last.length ∧ last.length ≤ bandHeight count + 2 := by
  have balanced := bandHeight_balanced (show 3 ≤ count by omega)
  have positive := bandHeight_pos count
  generalize bandHeight count = height at balanced positive
  constructor
  · intro place color
    have start : place * height ≤ 5 * height := Nat.mul_le_mul_right height color
    refine List.mem_map.2 ⟨place * height, List.mem_range.2 (by omega), ?_⟩
    exact bandPlace_add positive color
  · obtain ⟨size, last, parts, within, ends, _, runs⟩ :=
      exists_bands positive (show 0 < count by omega)
    have final : last = 5 := by
      rcases ends with final | short
      · exact final
      · by_contra other
        have fewer : last * height ≤ 4 * height := Nat.mul_le_mul_right height (by omega)
        omega
    subst final
    refine ⟨List.replicate (size 5) 5, ?_, ?_⟩
    · rw [runs, bandRuns_succ, List.getLast?_concat]
    · rw [List.length_replicate]
      omega

end Bands

/-! ## The lines -/

theorem getElem?_bandPlace (height index : Nat) :
    palette[bandPlace height index]? = some (bandColor index height) := by
  have within : bandPlace height index < palette.length :=
    Nat.lt_of_le_of_lt (bandPlace_le height index) (by decide)
  have color : bandColor index height = palette[bandPlace height index] := by
    rw [bandColor, List.getD_eq_getElem?_getD, List.getElem?_eq_getElem within, Option.getD_some]
  rw [List.getElem?_eq_getElem within, color]

theorem colorAt_eq {height : Nat} (positive : 0 < height) (index : Nat) :
    colorAt index height = .ok (bandColor index height) := by
  have nonzero : (height : Int) ≠ 0 := by omega
  have place : min ((index / height : Nat) : Int) ((palette.length : Int) - 1) =
      (bandPlace height index : Int) := by
    have last : palette.length = 6 := rfl
    rw [bandPlace, last]
    omega
  have inside : ¬ (bandPlace height index : Int) < 0 := by omega
  rw [colorAt, if_neg nonzero]
  simp only [← Int.ofNat_fdiv, place, if_neg inside, Int.toNat_natCast, getElem?_bandPlace]

theorem bandLine_eq {height : Nat} (positive : 0 < height) (line : String) (index : Nat) :
    bandLine height (line, index) = Placeholder.braced (bandColor index height) ++ line := by
  rw [bandLine, colorAt_eq positive]
  rfl

theorem rainbow_eq {lines : List String} (nonempty : lines ≠ []) (few : lines.length < 2 ^ 50) :
    rainbow lines = Text.joinLines (lines.zipIdx.map fun line =>
      bandLine (bandHeight lines.length) line ++ lineEnding lines.length line.2) := by
  have height : (stride lines.length).toOption.getD 1 = bandHeight lines.length := by
    rw [stride_eq few]
    rfl
  rw [rainbow, height]
  obtain ⟨front, last, rfl⟩ := (List.eq_nil_or_concat' lines).resolve_left nonempty
  have order : (front ++ [last]).zipIdx = front.zipIdx ++ [(last, front.length)] := by
    simp [List.zipIdx_append]
  have count : (front ++ [last]).length = front.length + 1 := List.length_append
  have before : ∀ line ∈ front.zipIdx,
      bandLine (bandHeight (front.length + 1)) line ++ lineEnding (front.length + 1) line.2 =
        bandLine (bandHeight (front.length + 1)) line := by
    intro line listed
    have early : line.2 < front.length := (List.mem_zipIdx' listed).1
    rw [lineEnding, if_neg (by omega), String.append_empty]
  rw [if_neg (by simp), order, count, List.map_append, List.map_append, List.map_singleton,
    List.map_singleton, Text.joinLines_concat_append, List.map_congr_left before, lineEnding,
    if_pos rfl]

theorem newline_not_mem_bandLine {line : String} (whole : '\n' ∉ line.toList) {height : Nat}
    (positive : 0 < height) (index count : Nat) :
    '\n' ∉ (bandLine height (line, index) ++ lineEnding count index).toList := by
  have colors : palette.all (fun color => !Text.hasChar color '\n') = true := by decide +kernel
  have color : '\n' ∉ (bandColor index height).toList := by
    have listed := List.mem_of_getElem? (getElem?_bandPlace height index)
    simpa [Text.hasChar] using List.all_eq_true.1 colors _ listed
  have ending : '\n' ∉ (lineEnding count index).toList := by
    rw [lineEnding]
    split
    · decide +kernel
    · simp
  rw [bandLine_eq positive]
  simp only [Placeholder.braced, String.toList_append, List.mem_append, not_or]
  exact ⟨⟨⟨⟨by decide, color⟩, by decide⟩, whole⟩, ending⟩

section Lines

variable {lines : List String} (nonempty : lines ≠ []) (few : lines.length < 2 ^ 50)
  (whole : ∀ line ∈ lines, '\n' ∉ line.toList)
include nonempty few whole

theorem splitAt_rainbow :
    Text.splitAt '\n' (rainbow lines) = lines.zipIdx.map fun line =>
      bandLine (bandHeight lines.length) line ++ lineEnding lines.length line.2 := by
  rw [rainbow_eq nonempty few, Text.splitAt_joinLines_of_not_mem (by simpa using nonempty)]
  intro painted listed
  obtain ⟨⟨line, index⟩, found, rfl⟩ := List.mem_map.1 listed
  exact newline_not_mem_bandLine (whole line (List.fst_mem_of_mem_zipIdx found))
    (bandHeight_pos _) _ _

theorem painted_rainbow :
    Painted (bandHeight lines.length) lines (bandPlaces (bandHeight lines.length) lines.length)
      (Text.splitAt '\n' (rainbow lines)) := by
  have positive := bandHeight_pos lines.length
  rw [splitAt_rainbow nonempty few whole]
  refine ⟨by simp [bandPlaces], by simp, fun index line place found placed => ?_⟩
  refine ⟨bandColor index (bandHeight lines.length), ?_, colorAt_eq positive index, ?_⟩
  · rw [bandPlaces, List.getElem?_map] at placed
    obtain ⟨same, inside, rfl⟩ := Option.map_eq_some_iff.1 placed
    obtain ⟨_, rfl⟩ := List.getElem?_eq_some_iff.1 inside
    rw [List.getElem_range]
    exact getElem?_bandPlace _ index
  · rw [List.getElem?_map, List.getElem?_zipIdx, found]
    simp [bandLine_eq positive]

end Lines

/-- The height that `stride` gives is a sixth of the lines, to the nearest. Every line stands behind
its color, the colors come in the order of the palette, and the bands have that height. Only the
last band may differ, and with enough lines for all colors it does so by a few lines. -/
theorem rainbow_bands_balanced {lines : List String} (nonempty : lines ≠ [])
    (few : lines.length < 2 ^ 50) (whole : ∀ line ∈ lines, '\n' ∉ line.toList) :
    ∃ (height : Nat) (places : List Nat), stride lines.length = .ok (height : Int) ∧ 1 ≤ height ∧
      (3 ≤ lines.length → 6 * height - 3 ≤ lines.length ∧ lines.length ≤ 6 * height + 2) ∧
      Painted height lines places (Text.splitAt '\n' (rainbow lines)) ∧ Banded height places ∧
      (21 ≤ lines.length → (∀ place ≤ 5, place ∈ places) ∧
        ∃ last, (bands places).getLast? = some last ∧
          height - 3 ≤ last.length ∧ last.length ≤ height + 2) := by
  have positive := bandHeight_pos lines.length
  refine ⟨bandHeight lines.length, bandPlaces (bandHeight lines.length) lines.length,
    stride_eq few, positive, fun enough => ?_, painted_rainbow nonempty few whole,
    banded_bandPlaces positive (List.length_pos_iff.2 nonempty), last_band_balanced⟩
  have balanced := bandHeight_balanced enough
  omega

/-- Five bands of four lines, and one line is left. -/
theorem twentyOne_lines_balanced :
    ∃ places, stride 21 = .ok 4 ∧
      Painted 4 (List.replicate 21 "#") places
        (Text.splitAt '\n' (rainbow (List.replicate 21 "#"))) ∧
      Banded 4 places ∧ (∀ place ≤ 5, place ∈ places) ∧
      ∃ last, (bands places).getLast? = some last ∧ 1 ≤ last.length ∧ last.length ≤ 6 := by
  have count : (List.replicate 21 "#").length = 21 := List.length_replicate
  have height : stride 21 = .ok 4 := stride_eq (by decide)
  have whole : ∀ line ∈ List.replicate 21 "#", '\n' ∉ line.toList := by
    intro line listed
    rw [List.eq_of_mem_replicate listed]
    decide
  obtain ⟨found, places, measured, _, _, painted, banded, all⟩ :=
    rainbow_bands_balanced (by simp) (by rw [count]; decide) whole
  rw [count] at measured all
  cases Int.ofNat.inj (Except.ok.inj (height.symm.trans measured))
  exact ⟨places, height, painted, banded, all (Nat.le_refl 21)⟩

end ShellMenu.Banner
