import Mathlib.Data.List.Induction
import ShellMenu.Escape

/-
  Escaping one kind of character after the other is the same as one pass that escapes them all,
  provided that no escape put in on the way is escaped itself. An identifier needs no escapes.
-/

namespace ShellMenu

namespace Text

theorem replaceFrom_singleton (old : Char) (fresh chars : List Char) :
    replaceFrom [old] fresh 0 chars = chars.flatMap fun c => if c = old then fresh else [c] := by
  induction chars with
  | nil => rfl
  | cons c rest ih =>
      by_cases same : c = old
      · subst same
        simp [replaceFrom, ih]
      · simp [replaceFrom, same, Ne.symm same, ih]

theorem toList_replaceAll_singleton (old : Char) (fresh text : String) :
    (replaceAll (String.singleton old) fresh text).toList =
      text.toList.flatMap fun c => if c = old then fresh.toList else [c] := by
  simp [replaceAll, replaceChars, replaceFrom_singleton]

end Text

namespace Escape

/-- What one pass makes of a character. -/
def escapeChar (escape : Char) (characters : List Char) (c : Char) : List Char :=
  if c ∈ characters then [escape, c] else [c]

/-- Nothing but escapes is put in. -/
theorem mem_of_mem_flatMap_escapeChar {escape c : Char} {characters chars : List Char}
    (present : c ∈ chars.flatMap (escapeChar escape characters)) : c = escape ∨ c ∈ chars := by
  obtain ⟨d, inside, here⟩ := List.mem_flatMap.1 present
  unfold escapeChar at here
  split at here
  · rcases List.mem_cons.1 here with same | itself
    · exact Or.inl same
    · exact Or.inr (List.mem_singleton.1 itself ▸ inside)
  · exact Or.inr (List.mem_singleton.1 here ▸ inside)

theorem flatMap_escapeChar_concat {escape last : Char} {before : List Char} (fresh : last ∉ before)
    (apart : before = [] ∨ escape ≠ last) (chars : List Char) :
    (chars.flatMap (escapeChar escape before)).flatMap
        (fun c => if c = last then [escape, last] else [c]) =
      chars.flatMap (escapeChar escape (before ++ [last])) := by
  rw [List.flatMap_assoc]
  refine congrArg (chars.flatMap ·) (funext fun c => ?_)
  by_cases known : c ∈ before
  · have other : c ≠ last := fun same => fresh (same ▸ known)
    have kept : escape ≠ last := apart.resolve_left (List.ne_nil_of_mem known)
    simp [escapeChar, known, other, kept]
  · by_cases same : c = last
    · subst same
      simp [escapeChar, known]
    · simp [escapeChar, known, same]

/-- Each character may come once, and the escape only first. -/
theorem toList_sequential {escape : Char} {characters : List Char} (distinct : characters.Nodup)
    (first : escape ∉ characters.tail) (text : String) :
    (sequential (String.singleton escape) (characters.map String.singleton) text).toList =
      text.toList.flatMap (escapeChar escape characters) := by
  induction characters using List.reverseRecOn with
  | nil =>
      have plain : escapeChar escape [] = fun c => [c] := by
        funext c
        simp [escapeChar]
      rw [plain]
      simp [sequential]
  | append_singleton before last ih =>
      obtain ⟨beforeDistinct, _, disjoint⟩ := List.nodup_append.1 distinct
      have fresh : last ∉ before := fun found => disjoint last found last (by simp) rfl
      have inner : escape ∉ before.tail := by
        cases before with
        | nil => simp
        | cons c rest => exact fun found => first (by simp [List.tail_cons ▸ found])
      have apart : before = [] ∨ escape ≠ last := by
        cases before with
        | nil => exact Or.inl rfl
        | cons c rest => exact Or.inr fun same => first (by simp [same])
      have step :
          sequential (String.singleton escape) ((before ++ [last]).map String.singleton) text =
          Text.replaceAll (String.singleton last) (String.singleton escape ++ String.singleton last)
            (sequential (String.singleton escape) (before.map String.singleton) text) := by
        simp [sequential]
      rw [step, Text.toList_replaceAll_singleton, ih beforeDistinct inner]
      simpa using flatMap_escapeChar_concat fresh apart text.toList

/-! ## One pass -/

/-- The escape goes before each of the characters where it stands, in one pass over the text. -/
def simultaneous (escape : Char) (characters : List Char) (text : String) : String :=
  String.ofList (text.toList.flatMap (escapeChar escape characters))

/-- An escape is dropped and the character after it kept, also if that is an escape; `escaped` is
after an escape that was dropped. -/
def unescapeChars (escape : Char) : (escaped : Bool) → List Char → List Char
  | _, [] => []
  | true, c :: rest => c :: unescapeChars escape false rest
  | false, c :: rest =>
      if c = escape then unescapeChars escape true rest else c :: unescapeChars escape false rest

def unescape (escape : Char) (text : String) : String :=
  String.ofList (unescapeChars escape false text.toList)

theorem sequential_eq_simultaneous {escape : Char} {characters : List Char}
    (distinct : characters.Nodup) (first : escape ∉ characters.tail) (text : String) :
    sequential (String.singleton escape) (characters.map String.singleton) text =
      simultaneous escape characters text := by
  apply String.toList_injective
  rw [toList_sequential distinct first, simultaneous, String.toList_ofList]

/-- The escape has to be one of the characters: an escape that the text has would be dropped. -/
theorem unescapeChars_flatMap_escapeChar {escape : Char} {characters : List Char}
    (listed : escape ∈ characters) (chars : List Char) :
    unescapeChars escape false (chars.flatMap (escapeChar escape characters)) = chars := by
  induction chars with
  | nil => rfl
  | cons c rest ih =>
      rw [List.flatMap_cons]
      by_cases known : c ∈ characters
      · have pair : escapeChar escape characters c = [escape, c] := if_pos known
        simp [pair, unescapeChars, ih]
      · have alone : escapeChar escape characters c = [c] := if_neg known
        have other : c ≠ escape := fun same => known (same ▸ listed)
        simp [alone, unescapeChars, other, ih]

theorem unescape_simultaneous {escape : Char} {characters : List Char}
    (listed : escape ∈ characters) (text : String) :
    unescape escape (simultaneous escape characters text) = text := by
  rw [unescape, simultaneous, String.toList_ofList, unescapeChars_flatMap_escapeChar listed,
    String.ofList_toList]

/-! ## An escape that comes late -/

theorem sequential_append (escape : String) (before after : List String) (text : String) :
    sequential escape (before ++ after) text =
      sequential escape after (sequential escape before text) := by
  rw [sequential, List.foldl_append]
  rfl

/-- Nothing of the text is lost on the way. -/
theorem sublist_sequential (escape : Char) (characters : List Char) (text : String) :
    text.toList.Sublist
      (sequential (String.singleton escape) (characters.map String.singleton) text).toList := by
  induction characters generalizing text with
  | nil => exact List.Sublist.refl _
  | cons c characters ih =>
      have pass : text.toList.Sublist (Text.replaceAll (String.singleton c)
          (String.singleton escape ++ String.singleton c) text).toList := by
        rw [Text.toList_replaceAll_singleton]
        induction text.toList with
        | nil => exact List.Sublist.refl _
        | cons d chars kept =>
            refine List.Sublist.append (?_ : [d].Sublist _) kept
            by_cases same : d = c
            · simp [same]
            · simp [same]
      exact List.Sublist.trans pass (ih _)

/-- The escape before the first character is escaped again when its own turn comes. -/
theorem sequential_ne_simultaneous {escape first : Char} {rest : List Char}
    (distinct : (first :: rest).Nodup) (late : escape ∈ rest) :
    sequential (String.singleton escape) ((first :: rest).map String.singleton)
        (String.singleton first) ≠
      simultaneous escape (first :: rest) (String.singleton first) := by
  obtain ⟨before, after, rfl⟩ := List.append_of_mem late
  have front : (first :: before).Nodup := by
    rw [← List.cons_append] at distinct
    exact (List.nodup_append.1 distinct).1
  have early : escape ∉ before := by
    intro found
    obtain ⟨_, _, disjoint⟩ := List.nodup_append.1 (List.nodup_cons.1 distinct).2
    exact disjoint escape found escape List.mem_cons_self rfl
  have other : first ≠ escape := fun same => (List.nodup_cons.1 distinct).1 (same ▸ late)
  have soFar : sequential (String.singleton escape) ((first :: before).map String.singleton)
      (String.singleton first) = String.ofList [escape, first] := by
    rw [sequential_eq_simultaneous front early]
    simp [simultaneous, escapeChar]
  have turn : (sequential (String.singleton escape) ((first :: before ++ [escape]).map
      String.singleton) (String.singleton first)).toList = [escape, escape, first] := by
    rw [List.map_append, sequential_append, soFar]
    simp [sequential, Text.toList_replaceAll_singleton, other]
  intro same
  have kept := sublist_sequential escape after (sequential (String.singleton escape)
    ((first :: before ++ [escape]).map String.singleton) (String.singleton first))
  rw [← sequential_append, ← List.map_append, turn] at kept
  simp only [List.append_assoc, List.cons_append, List.nil_append] at kept
  have shorter := List.Sublist.length_le kept
  rw [same] at shorter
  simp [simultaneous, escapeChar] at shorter

theorem absent_or_first_iff {escape : Char} {characters : List Char}
    (distinct : characters.Nodup) :
    escape ∉ characters ∨ characters.head? = some escape ↔ escape ∉ characters.tail := by
  cases characters with
  | nil => simp
  | cons first rest =>
      have fresh := (List.nodup_cons.1 distinct).1
      simp only [List.mem_cons, not_or, List.head?_cons, Option.some.injEq, List.tail_cons]
      constructor
      · rintro (⟨_, absent⟩ | rfl)
        · exact absent
        · exact fresh
      · intro absent
        by_cases same : first = escape
        · exact Or.inr same
        · exact Or.inl ⟨Ne.symm same, absent⟩

/-- Of distinct characters the escape may only be the first one: exactly then one character after
the other gives what one pass gives, for every text. If it is the first one, dropping the escapes
gives the text back. -/
theorem sequential_eq_simultaneous_iff {escape : Char} {characters : List Char}
    (distinct : characters.Nodup) :
    (escape ∉ characters ∨ characters.head? = some escape ↔
      ∀ text, sequential (String.singleton escape) (characters.map String.singleton) text =
        simultaneous escape characters text) ∧
    (characters.head? = some escape →
      ∀ text, unescape escape
        (sequential (String.singleton escape) (characters.map String.singleton) text) = text) := by
  constructor
  · rw [absent_or_first_iff distinct]
    constructor
    · exact sequential_eq_simultaneous distinct
    · intro agree late
      cases characters with
      | nil => simp at late
      | cons first rest => exact sequential_ne_simultaneous distinct late (agree _)
  · intro first text
    have notLate := (absent_or_first_iff distinct).1 (Or.inr first)
    rw [sequential_eq_simultaneous distinct notLate]
    exact unescape_simultaneous (List.mem_of_head? first) text

theorem backslash_before_quote :
    ['\\', '"'].Nodup ∧
      (∀ text, sequential "\\" ["\\", "\""] text = simultaneous '\\' ['\\', '"'] text) ∧
      (∀ text, unescape '\\' (sequential "\\" ["\\", "\""] text) = text) ∧
      ¬ ∀ text, sequential "\\" ["\"", "\\"] text = simultaneous '\\' ['"', '\\'] text := by
  have backslash : String.singleton '\\' = "\\" := rfl
  have quote : String.singleton '"' = "\"" := rfl
  have distinct : ['\\', '"'].Nodup := by decide
  have ahead := @sequential_eq_simultaneous_iff '\\' _ distinct
  have behind := @sequential_eq_simultaneous_iff '\\' ['"', '\\'] (by decide)
  simp only [List.map_cons, List.map_nil, backslash, quote] at ahead behind
  refine ⟨distinct, ahead.1.1 (Or.inr rfl), ahead.2 rfl, fun agree => ?_⟩
  exact absurd (behind.1.2 agree) (by decide)

/-! ## Identifiers -/

theorem mem_toIdentifier {c : Char} {text : String} (present : c ∈ (toIdentifier text).toList) :
    c.isAlphanum = true ∨ c = '_' := by
  unfold toIdentifier at present
  simp only at present
  split at present
  · exact Or.inr (by simpa using present)
  · rw [String.toList_ofList] at present
    obtain ⟨original, _, rfl⟩ := List.mem_map.1 present
    unfold identifierChar
    split
    · next safe => simpa using safe
    · exact Or.inr rfl

end Escape

end ShellMenu
