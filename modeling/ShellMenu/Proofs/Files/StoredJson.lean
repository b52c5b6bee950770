import Mathlib.Data.Char
import Mathlib.Data.List.Lex
import ShellMenu.Files.Project
import ShellMenu.Proofs.Files.Tree
import ShellMenu.Proofs.Json.Indented
import ShellMenu.Proofs.Spec.Digits

/-
  What is written to a JSON file is read back from it, with the members of every object in the
  order of their names. An integer with too many digits is refused, and so is a value with more
  levels than there is room for; then no file is written.
-/

namespace ShellMenu

/-! ## Line ends -/

namespace Text

theorem replaceFrom_of_not_mem {first : Char} {old fresh chars : List Char}
    (absent : first ∉ chars) : replaceFrom (first :: old) fresh 0 chars = chars := by
  induction chars with
  | nil => rfl
  | cons c rest ih =>
      rw [List.mem_cons, not_or] at absent
      have differs : (first :: old).isPrefixOf (c :: rest) = false := by
        simp [List.isPrefixOf, absent.1]
      rw [replaceFrom, differs, if_neg Bool.false_ne_true, ih absent.2]

theorem replaceAll_of_not_mem {old text : String} {first : Char} {others : List Char}
    (start : old.toList = first :: others) (absent : first ∉ text.toList) (fresh : String) :
    replaceAll old fresh text = text := by
  rw [replaceAll, replaceChars, start, List.isEmpty_cons, if_neg Bool.false_ne_true,
    replaceFrom_of_not_mem absent, String.ofList_toList]

theorem unifyNewlines_of_not_mem {text : String} (absent : '\r' ∉ text.toList) :
    unifyNewlines text = text := by
  have kept : fromCrlf text = text := replaceAll_of_not_mem rfl absent "\n"
  rw [unifyNewlines, kept]
  exact replaceAll_of_not_mem rfl absent "\n"

end Text

namespace Json

/-! ## Order -/

def isFloat : Json → Bool
  | .float _ => true
  | _ => false

def hasDistinctNames : Json → Bool
  | .obj members => decide (members.map Prod.fst).Nodup
  | _ => true

/-- The names ascend by code points, so that none comes twice. -/
def hasAscendingNames : Json → Bool
  | .obj members => decide (members.Pairwise fun left right => left.1.toList < right.1.toList)
  | _ => true

mutual

/-- The same value but for the order of members. Unlike for `same`, true is not one. -/
def rearranges : Json → Json → Bool
  | .null, .null => true
  | .bool left, .bool right => left = right
  | .int left, .int right => left = right
  | .float left, .float right => left = right
  | .str left, .str right => left = right
  | .arr left, .arr right => rearrangesItems left right
  | .obj left, .obj right => left.length = right.length && rearrangesMembers left right
  | _, _ => false

def rearrangesItems : List Json → List Json → Bool
  | [], [] => true
  | left :: lefts, right :: rights => rearranges left right && rearrangesItems lefts rights
  | _, _ => false

/-- Every member is found on the other side under its name. -/
def rearrangesMembers : List (String × Json) → List (String × Json) → Bool
  | [], _ => true
  | (name, left) :: lefts, rights =>
      (match rights.lookup name with
        | some right => rearranges left right
        | none => false) && rearrangesMembers lefts rights

end

theorem sortedItems_eq (items : List Json) : sortedItems items = items.map sorted := by
  induction items with
  | nil => rfl
  | cons item rest ih => rw [sortedItems, ih, List.map_cons]

def sortedMember (member : String × Json) : String × Json :=
  (member.1, member.2.sorted)

theorem sortedMembers_eq (members : List (String × Json)) :
    sortedMembers members = members.map sortedMember := by
  induction members with
  | nil => rfl
  | cons member rest ih =>
      rw [sortedMembers, ih, List.map_cons]
      rfl

theorem sorted_arr (items : List Json) : (Json.arr items).sorted = .arr (items.map sorted) := by
  rw [sorted, sortedItems_eq]

theorem sorted_obj (members : List (String × Json)) :
    (Json.obj members).sorted = .obj (sortBy byName (members.map sortedMember)) := by
  rw [sorted, sortedMembers_eq]

/-- Sorting moves the members, and keeps their names. -/
theorem names_sorted_perm (members : List (String × Json)) :
    ((sortBy byName (members.map sortedMember)).map Prod.fst).Perm (members.map Prod.fst) := by
  have moved := (sortBy_perm byName (members.map sortedMember)).map Prod.fst
  rwa [List.map_map] at moved

theorem ascending_sortBy {members : List (String × Json)}
    (apart : ((sortBy byName members).map Prod.fst).Nodup) :
    (sortBy byName members).Pairwise fun left right => left.1.toList < right.1.toList := by
  have total : ∀ left right : String × Json,
      byName left right = true ∨ byName right left = true := by
    intro left right
    simp only [byName, Text.atMost, Bool.not_eq_true', decide_eq_false_iff_not, not_lt]
    exact le_total _ _
  have trans : ∀ left middle right : String × Json, byName left middle = true →
      byName middle right = true → byName left right = true := by
    intro left middle right
    simp only [byName, Text.atMost, Bool.not_eq_true', decide_eq_false_iff_not, not_lt]
    exact le_trans
  have differ : (sortBy byName members).Pairwise fun left right => left.1 ≠ right.1 :=
    List.pairwise_map.1 apart
  refine (differ.and (pairwise_sortBy total trans members)).imp fun {left right} both => ?_
  have atMost : left.1.toList ≤ right.1.toList := by
    simpa [byName, Text.atMost] using both.2
  exact lt_of_le_of_ne atMost fun same => both.1 (String.toList_injective same)

/-- Sorting makes of what holds before what holds after it, part by part. -/
theorem everywhere_sorted {before after : Json → Bool}
    (each : ∀ value, before value = true → after value.sorted = true) {value : Json}
    (holds : value.everywhere before = true) : value.sorted.everywhere after = true := by
  induction value using parts with
  | null => exact each .null holds
  | bool value => exact each (.bool value) holds
  | int value => exact each (.int value) holds
  | float value => exact each (.float value) holds
  | str value => exact each (.str value) holds
  | arr items ih =>
      obtain ⟨top, inner⟩ := everywhere_arr.1 holds
      have whole := each _ top
      rw [sorted_arr] at whole ⊢
      refine everywhere_arr.2 ⟨whole, List.forall_mem_map.2 fun item present => ?_⟩
      exact ih item present (inner item present)
  | obj members ih =>
      obtain ⟨top, inner⟩ := everywhere_obj.1 holds
      have whole := each _ top
      rw [sorted_obj] at whole ⊢
      refine everywhere_obj.2 ⟨whole, fun member present => ?_⟩
      obtain ⟨original, there, rfl⟩ :=
        List.mem_map.1 ((sortBy_perm byName _).mem_iff.1 present)
      exact ih original there (inner original there)

theorem storable_sorted (value : Json) (storable : isStorable value = true) :
    isStorable value.sorted = true := by
  cases value with
  | obj members =>
      rw [sorted_obj]
      have apart : (members.map Prod.fst).Nodup := of_decide_eq_true storable
      exact decide_eq_true ((names_sorted_perm members).nodup_iff.2 apart)
  | arr items => rfl
  | _ => simpa only [sorted] using storable

theorem ascending_sorted (value : Json) (distinct : hasDistinctNames value = true) :
    hasAscendingNames value.sorted = true := by
  cases value with
  | obj members =>
      rw [sorted_obj]
      have apart : (members.map Prod.fst).Nodup := of_decide_eq_true distinct
      exact decide_eq_true (ascending_sortBy ((names_sorted_perm members).nodup_iff.2 apart))
  | _ => rfl

theorem lookup_of_mem {entries : List (String × Json)} (apart : (entries.map Prod.fst).Nodup)
    {entry : String × Json} (present : entry ∈ entries) :
    entries.lookup entry.1 = some entry.2 := by
  induction entries with
  | nil => cases present
  | cons first rest ih =>
      rw [List.map_cons, List.nodup_cons] at apart
      rcases List.mem_cons.1 present with rfl | later
      · exact List.lookup_cons_self
      · have other : entry.1 ≠ first.1 := fun same =>
          apart.1 (same ▸ List.mem_map_of_mem later)
        rw [List.lookup_cons, beq_false_of_ne other]
        exact ih apart.2 later

theorem rearrangesItems_map {change : Json → Json} {items : List Json}
    (each : ∀ item ∈ items, item.rearranges (change item) = true) :
    rearrangesItems items (items.map change) = true := by
  induction items with
  | nil => rfl
  | cons item rest ih =>
      rw [List.forall_mem_cons] at each
      rw [List.map_cons, rearrangesItems, each.1, ih each.2]
      rfl

theorem rearrangesMembers_of_lookup {members others : List (String × Json)}
    (each : ∀ member ∈ members, ∃ other, others.lookup member.1 = some other ∧
      member.2.rearranges other = true) : rearrangesMembers members others = true := by
  induction members with
  | nil => rfl
  | cons member rest ih =>
      rw [List.forall_mem_cons] at each
      obtain ⟨other, found, alike⟩ := each.1
      rw [rearrangesMembers, found]
      simp [alike, ih each.2]

theorem rearranges_sorted {value : Json} (distinct : value.everywhere hasDistinctNames = true) :
    value.rearranges value.sorted = true := by
  induction value using parts with
  | null => rfl
  | bool value => simp [sorted, rearranges]
  | int value => simp [sorted, rearranges]
  | float value => simp [sorted, rearranges]
  | str value => simp [sorted, rearranges]
  | arr items ih =>
      have inner := (everywhere_arr.1 distinct).2
      rw [sorted_arr, rearranges]
      exact rearrangesItems_map fun item present => ih item present (inner item present)
  | obj members ih =>
      obtain ⟨top, inner⟩ := everywhere_obj.1 distinct
      have apart : (members.map Prod.fst).Nodup := of_decide_eq_true top
      have moved := sortBy_perm byName (members.map sortedMember)
      rw [sorted_obj, rearranges, moved.length_eq, List.length_map]
      simp only [decide_true, Bool.true_and]
      refine rearrangesMembers_of_lookup fun member present => ⟨member.2.sorted, ?_, ?_⟩
      · exact lookup_of_mem ((names_sorted_perm members).nodup_iff.2 apart)
          (moved.mem_iff.2 (List.mem_map_of_mem present))
      · exact ih member present (inner member present)

/-! ## Levels -/

theorem itemsDepth_eq (items : List Json) : itemsDepth items = (items.map depth).foldr max 0 := by
  induction items with
  | nil => rfl
  | cons item rest ih => rw [itemsDepth, ih, List.map_cons, List.foldr_cons]

theorem membersDepth_eq (members : List (String × Json)) :
    membersDepth members = (members.map fun member => member.2.depth).foldr max 0 := by
  induction members with
  | nil => rfl
  | cons member rest ih => rw [membersDepth, ih, List.map_cons, List.foldr_cons]

theorem membersDepth_perm {left right : List (String × Json)} (same : left.Perm right) :
    membersDepth left = membersDepth right := by
  rw [membersDepth_eq, membersDepth_eq]
  refine (same.map _).foldr_eq' (fun first _ second _ deepest => ?_) 0
  exact Nat.max_left_comm second first deepest

/-- Sorting moves nothing to another level. -/
theorem depth_sorted (value : Json) : value.sorted.depth = value.depth := by
  induction value using parts with
  | null => rfl
  | bool value => rfl
  | int value => rfl
  | float value => rfl
  | str value => rfl
  | arr items ih =>
      have each : (items.map sorted).map depth = items.map depth := by
        rw [List.map_map]
        exact List.map_congr_left ih
      rw [sorted_arr, depth, depth, itemsDepth_eq, itemsDepth_eq, each]
  | obj members ih =>
      have each : (members.map sortedMember).map (fun member => member.2.depth) =
          members.map fun member => member.2.depth := by
        rw [List.map_map]
        exact List.map_congr_left ih
      rw [sorted_obj, depth, depth, membersDepth_perm (sortBy_perm byName _), membersDepth_eq,
        membersDepth_eq, each]

/-! ## Values that can be written -/

theorem short_of_mem_items {items : List Json} {item : Json}
    (short : itemsHaveShortIntegers items = true) (present : item ∈ items) :
    item.hasShortIntegers = true := by
  induction items with
  | nil => cases present
  | cons first rest ih =>
      rw [itemsHaveShortIntegers, Bool.and_eq_true] at short
      rcases List.mem_cons.1 present with rfl | later
      · exact short.1
      · exact ih short.2 later

theorem storable_of_short {value : Json}
    (floatless : value.everywhere (fun part => !part.isFloat) = true)
    (distinct : value.everywhere hasDistinctNames = true) (short : value.hasShortIntegers = true) :
    value.everywhere isStorable = true := by
  induction value using parts with
  | null => rfl
  | bool value => rfl
  | int value => simpa only [everywhere, isStorable, hasShortIntegers] using short
  | float value => cases floatless
  | str value => rfl
  | arr items ih =>
      have plain := (everywhere_arr.1 floatless).2
      have apart := (everywhere_arr.1 distinct).2
      refine everywhere_arr.2 ⟨rfl, fun item present => ?_⟩
      exact ih item present (plain item present) (apart item present)
        (short_of_mem_items short present)
  | obj members ih =>
      have plain := (everywhere_obj.1 floatless).2
      obtain ⟨top, apart⟩ := everywhere_obj.1 distinct
      refine everywhere_obj.2 ⟨top, fun member present => ?_⟩
      exact ih member present (plain member present) (apart member present)
        (short_of_mem short present)

theorem read_fileText {value : Json} (storable : value.everywhere isStorable = true) :
    read (Text.unifyNewlines value.fileText) = .ok value.sorted := by
  have kept := everywhere_sorted storable_sorted storable
  have plain : PlainText value.fileText := (plain_indented kept 0).append (by decide)
  have absent : '\r' ∉ value.fileText.toList := fun present =>
    absurd (plain '\r' present) (by decide)
  have document : readDocument value.fileText.toList = .ok value.sorted := by
    rw [fileText, String.toList_append]
    exact readDocument_indented kept
  rw [Text.unifyNewlines_of_not_mem absent, read, document]

end Json

/-! ## Files -/

namespace FileTree

variable {tree after : FileTree} {base path : Path}

theorem put_of_locate {place : List String} (nul : path.hasNul = false)
    (reached : tree.locate base path = .ok place) (file : tree.get? place ≠ some .directory)
    (text : String) : tree.put base path text = .ok (tree.set place (.text text)) := by
  have written : tree.writeFile base path text = .ok (tree.set place (.text text)) := by
    simp [writeFile, reached, bind, Except.bind]
  rw [put, nul, if_neg Bool.false_ne_true, written]

/-- Whether a file can be written does not depend on what is written to it. -/
theorem write_any {content : String} (room : (tree.write base path (.ok content)).1 = .ok ()) :
    ∃ middle, tree.makeRoom base path = (.ok (), middle) ∧
      ∀ text, ∃ after, tree.write base path (.ok text) = (.ok (), after) := by
  rw [write] at room
  split at room
  · cases room
  · next middle made =>
      split at room
      · next written =>
          obtain ⟨_, _, written⟩ := exists_of_bind_eq_ok written
          obtain ⟨nul, place, reached, file, rfl⟩ := put_eq_ok written
          refine ⟨middle, made, fun text => ⟨middle.set place (.text text), ?_⟩⟩
          have done : (Except.ok text : Result String).bind (middle.put base path) =
              .ok (middle.set place (.text text)) := put_of_locate nul reached file text
          rw [write, made]
          simp only [done]
      · cases room

theorem readText_of_look {text : String} (seen : tree.look base path = .ok (some (.text text)))
    (told : FileProblem → Fault) : tree.readText base path told = .ok text := by
  obtain ⟨nul, place, reached, held⟩ := locate_of_look seen
  have entered : tree.entry base path = .ok (.text text) := by
    rw [entry, reached]
    simp only [bind, Except.bind, held]
  rw [readText, nul, if_neg Bool.false_ne_true, entered]

theorem jsonText_eq_error {room : Nat} {value : Json}
    (refused : value.hasShortIntegers = false ∨ room < value.depth) :
    ∃ error, jsonText room value = breaking error ∧
      (error = .longNumeral ∧ value.hasShortIntegers = false ∨
        error = .tooDeep ∧ room < value.depth) := by
  by_cases deep : room < value.depth
  · exact ⟨.tooDeep, by rw [jsonText, if_pos deep], Or.inr ⟨rfl, deep⟩⟩
  · have long := refused.resolve_right deep
    refine ⟨.longNumeral, ?_, Or.inl ⟨rfl, long⟩⟩
    rw [jsonText, if_neg deep, long, if_neg Bool.false_ne_true]

/-- A value that is written is read back with the members of every object in the order of their
names, wherever there is room for its levels. It is written if its integers are short enough and
there is room for it, and else only directories are made: room for the file is made before its
text is asked for. -/
theorem written_value_reads_back (tree : FileTree) (room : Nat) (base path : Path) (value : Json)
    (floatless : value.everywhere (fun part => !part.isFloat) = true)
    (distinct : value.everywhere Json.hasDistinctNames = true)
    (writable : ∃ content, (tree.write base path (.ok content)).1 = .ok ()) :
    (value.hasShortIntegers = true → value.depth ≤ room → ∃ after loaded,
      tree.writeJson room base path value = (.ok (), after) ∧
      (∀ later, value.depth ≤ later → after.loadJson later base path = .ok loaded) ∧
      value.rearranges loaded = true ∧ loaded.everywhere Json.hasAscendingNames = true) ∧
    (value.hasShortIntegers = false ∨ room < value.depth → ∃ error after,
      tree.writeJson room base path value = (breaking error, after) ∧ Updated [] tree after ∧
      (error = .longNumeral ∧ value.hasShortIntegers = false ∨
        error = .tooDeep ∧ room < value.depth)) := by
  obtain ⟨content, fits⟩ := writable
  obtain ⟨middle, made, writes⟩ := write_any fits
  constructor
  · intro short shallow
    have storable := Json.storable_of_short floatless distinct short
    obtain ⟨after, done⟩ := writes value.fileText
    have stored : tree.writeJson room base path value = (.ok (), after) := by
      rw [writeJson, jsonText, if_neg (Nat.not_lt.2 shallow), if_pos short, done]
    obtain ⟨text, place, same, seen, _⟩ := write_eq_ok done
    cases same
    have read : after.readJson base path = .ok value.sorted := by
      rw [readJson, readText_of_look seen]
      simp only [bind, Except.bind, Json.read_fileText storable]
      rfl
    refine ⟨after, value.sorted, stored, fun later enough => ?_, Json.rearranges_sorted distinct,
      Json.everywhere_sorted Json.ascending_sorted distinct⟩
    have inside : ¬ later < value.sorted.depth := by
      rw [Json.depth_sorted]
      exact Nat.not_lt.2 enough
    rw [loadJson, read]
    exact if_neg inside
  · intro refused
    obtain ⟨error, text, reason⟩ := jsonText_eq_error refused
    have failed : tree.writeJson room base path value = (breaking error, middle) := by
      rw [writeJson, text, write, made]
      rfl
    exact ⟨error, middle, failed, write_updated_of_error failed, reason⟩

/-- Names out of order, an empty array, and a text with a quote, a control character and two
characters past ASCII, one of them a pair of code units. -/
def mixedValue : Json :=
  .obj [("b", .arr [.int (-10), .bool true, .null, .arr []]),
    ("a", .obj [("é", .str "\"\x01é😀"), ("", .int 0)])]

theorem writable_empty :
    ((⟨[]⟩ : FileTree).write ⟨true, []⟩ (Path.ofText "a.json") (.ok "")).1 = .ok () := by
  rw [write_of_room rfl (makeDirectories_of_ensured rfl) rfl]

/-- Three levels are as many as there is room for. -/
theorem mixedValue_reads_back :
    mixedValue.everywhere (fun part => !part.isFloat) = true ∧
    mixedValue.everywhere Json.hasDistinctNames = true ∧ mixedValue.hasShortIntegers = true ∧
    mixedValue.depth = 3 ∧
    (∃ after loaded, (⟨[]⟩ : FileTree).writeJson 3 ⟨true, []⟩ (Path.ofText "a.json") mixedValue =
        (.ok (), after) ∧
      after.loadJson 3 ⟨true, []⟩ (Path.ofText "a.json") = .ok loaded ∧
      mixedValue.rearranges loaded = true ∧ loaded.everywhere Json.hasAscendingNames = true) ∧
    ∃ after, (⟨[]⟩ : FileTree).writeJson 2 ⟨true, []⟩ (Path.ofText "a.json") mixedValue =
      (breaking .tooDeep, after) := by
  have floatless : mixedValue.everywhere (fun part => !part.isFloat) = true := by decide +kernel
  have distinct : mixedValue.everywhere Json.hasDistinctNames = true := by decide +kernel
  have short : mixedValue.hasShortIntegers = true := by decide +kernel
  have levels : mixedValue.depth = 3 := by decide +kernel
  obtain ⟨back, _⟩ := written_value_reads_back ⟨[]⟩ 3 ⟨true, []⟩ (Path.ofText "a.json") mixedValue
    floatless distinct ⟨"", writable_empty⟩
  obtain ⟨after, loaded, stored, reads, alike, ascending⟩ := back short (Nat.le_of_eq levels)
  obtain ⟨_, refused⟩ := written_value_reads_back ⟨[]⟩ 2 ⟨true, []⟩ (Path.ofText "a.json")
    mixedValue floatless distinct ⟨"", writable_empty⟩
  obtain ⟨error, left, failed, _, reason⟩ := refused (Or.inr (by rw [levels]; decide))
  refine ⟨floatless, distinct, short, levels,
    ⟨after, loaded, stored, reads 3 (Nat.le_of_eq levels), alike, ascending⟩, left, ?_⟩
  rcases reason with ⟨_, long⟩ | ⟨rfl, _⟩
  · cases short.symm.trans long
  · exact failed

/-- The smallest one that has too many digits. -/
def longInteger : Int := Int.ofNat (Nat.pow 10 4300)

theorem long_integer_not_written :
    (Json.int longInteger).everywhere (fun part => !part.isFloat) = true ∧
    (Json.int longInteger).everywhere Json.hasDistinctNames = true ∧
    ((⟨[]⟩ : FileTree).write ⟨true, []⟩ (Path.ofText "a.json") (.ok "")).1 = .ok () ∧
    ∀ room, ((⟨[]⟩ : FileTree).writeJson room ⟨true, []⟩ (Path.ofText "a.json")
      (.int longInteger)).1 = breaking .longNumeral := by
  have long : (Json.int longInteger).hasShortIntegers = false := by decide +kernel
  obtain ⟨middle, made, _⟩ := write_any writable_empty
  refine ⟨rfl, rfl, writable_empty, fun room => ?_⟩
  obtain ⟨error, text, reason⟩ := jsonText_eq_error (Or.inl long : _ ∨ room < _)
  rcases reason with ⟨rfl, _⟩ | ⟨_, deep⟩
  · rw [writeJson, text, write, made]
    rfl
  · exact absurd deep (Nat.not_lt_zero room)

end FileTree

end ShellMenu
