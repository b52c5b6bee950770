import Mathlib.Data.List.Lattice
import Mathlib.Data.List.TakeWhile
import ShellMenu.Proofs.Batch.Redirection

/-
  Converting placeholders one set of names after the other. A text that was converted is scanned
  again, so it matters what the scanner makes of the places where something was put in. Nothing:
  what is put in has no dollar sign, and its first character neither goes on with a name nor is a
  brace.
-/

namespace ShellMenu

namespace Placeholder

/-! ## What the scanner finds -/

structure IsName (name : List Char) : Prop where
  starts : ∃ c rest, name = c :: rest ∧ isNameStart c = true
  inside : ∀ c ∈ name, isNameChar c = true

/-- No name goes on here. -/
def EndsName (chars : List Char) : Prop :=
  ∀ c ∈ chars.head?, isNameChar c = false

/-- `Found piece chars after`: the characters right after a dollar sign make it a placeholder, and
`after` is what they leave. A name without braces is as long as it can be. -/
inductive Found : Piece → List Char → List Char → Prop
  | bare {name after : List Char} :
      IsName name → EndsName after → Found (.bare name) (name ++ after) after
  | braced {name after : List Char} :
      IsName name → Found (.braced name) ('\x7b' :: name ++ '\x7d' :: after) after

/-- A text cut up from the left: a dollar sign stands alone only where there is no placeholder. -/
inductive Cut : List Char → List Piece → Prop
  | nil : Cut [] []
  | plain {c : Char} {rest : List Char} {cut : List Piece} :
      (c = '$' → ∀ piece after, ¬ Found piece rest after) → Cut rest cut →
      Cut (c :: rest) (.plain c :: cut)
  | placeholder {piece : Piece} {inside after : List Char} {cut : List Piece} :
      Found piece inside after → Cut after cut → Cut ('$' :: inside) (piece :: cut)

theorem isNameChar_of_isNameStart {c : Char} (starts : isNameStart c = true) :
    isNameChar c = true := by
  simp [isNameChar, starts]

theorem IsName.ne_nil {name : List Char} (named : IsName name) : name ≠ [] := by
  obtain ⟨c, rest, rfl, _⟩ := named.starts
  exact List.cons_ne_nil c rest

theorem IsName.not_mem {name : List Char} (named : IsName name) {c : Char}
    (outside : isNameChar c = false) : c ∉ name := by
  intro present
  rw [named.inside c present] at outside
  cases outside

theorem takeWhile_isNameChar_append {name after : List Char}
    (inside : ∀ c ∈ name, isNameChar c = true) (ends : EndsName after) :
    (name ++ after).takeWhile isNameChar = name := by
  rw [List.takeWhile_append_of_pos inside]
  have none : after.takeWhile isNameChar = [] := by
    cases after with
    | nil => rfl
    | cons c rest => simp [ends c rfl]
  rw [none, List.append_nil]

theorem nameAt_append {name after : List Char} (named : IsName name) (ends : EndsName after) :
    nameAt (name ++ after) = name := by
  obtain ⟨c, rest, rfl, starts⟩ := named.starts
  have others := takeWhile_isNameChar_append
    (fun d present => named.inside d (List.mem_cons_of_mem c present)) ends
  simp [nameAt, starts, others]

/-- The longest name at the front of a text. -/
theorem exists_of_nameAt {chars : List Char} (some : nameAt chars ≠ []) :
    ∃ after, IsName (nameAt chars) ∧ EndsName after ∧ chars = nameAt chars ++ after := by
  cases chars with
  | nil => exact absurd rfl some
  | cons c rest =>
      by_cases starts : isNameStart c = true
      · have name : nameAt (c :: rest) = c :: rest.takeWhile isNameChar := by simp [nameAt, starts]
        rw [name]
        refine ⟨rest.dropWhile isNameChar, ⟨⟨c, _, rfl, starts⟩, ?_⟩, ?_, by simp⟩
        · intro d present
          rcases List.mem_cons.1 present with rfl | later
          · exact isNameChar_of_isNameStart starts
          · exact List.mem_takeWhile_imp later
        · intro d first
          have stops := List.head?_dropWhile_not isNameChar rest
          rw [first] at stops
          simpa using stops
      · exact absurd (by simp [nameAt, starts]) some

theorem found_of_placeholderAt? {chars : List Char} {piece : Piece}
    (scanned : placeholderAt? chars = some piece) : ∃ after, Found piece chars after := by
  unfold placeholderAt? at scanned
  split at scanned
  · next rest =>
      simp only [Option.ite_none_right_eq_some, Bool.and_eq_true, Bool.not_eq_true',
        List.isEmpty_eq_false_iff, decide_eq_true_eq] at scanned
      obtain ⟨⟨some, closed⟩, made⟩ := scanned
      obtain ⟨after, named, _, parts⟩ := exists_of_nameAt some
      generalize nameAt rest = name at *
      subst parts
      cases made
      rw [List.drop_left] at closed
      obtain ⟨after, rfl⟩ := List.head?_eq_some_iff.1 closed
      exact ⟨after, Found.braced named⟩
  · simp only [Option.ite_none_left_eq_some, List.isEmpty_iff] at scanned
    obtain ⟨some, made⟩ := scanned
    obtain ⟨after, named, ends, parts⟩ := exists_of_nameAt some
    cases made
    exact ⟨after, by simpa only [← parts] using Found.bare named ends⟩

theorem placeholderAt?_of_found {chars after : List Char} {piece : Piece}
    (found : Found piece chars after) : placeholderAt? chars = some piece := by
  cases found with
  | @bare name after named ends =>
      have name := nameAt_append named ends
      obtain ⟨c, rest, rfl, starts⟩ := named.starts
      have opening : c ≠ '\x7b' := by
        rintro rfl
        exact absurd starts (by decide)
      rw [List.cons_append] at name ⊢
      unfold placeholderAt?
      split
      · next same => exact absurd (List.cons.inj same).1 opening
      · simp [name]
  | @braced name after named =>
      have ends : EndsName ('\x7d' :: after) := by
        rintro c ⟨⟩
        decide
      have read := nameAt_append named ends
      simp [placeholderAt?, read, named.ne_nil]

theorem Found.exists_chars {piece : Piece} {inside after : List Char}
    (found : Found piece inside after) :
    ∃ middle, piece.chars = '$' :: middle ∧ inside = middle ++ after := by
  cases found with
  | bare named ends => exact ⟨_, rfl, rfl⟩
  | braced named => exact ⟨_, rfl, by simp⟩

theorem pieces_of_cut {chars : List Char} {cut : List Piece} (cuts : Cut chars cut) :
    pieces chars = cut := by
  induction cuts with
  | nil => rfl
  | @plain c rest cut alone _ ih =>
      have none : (if c = '$' then placeholderAt? rest else none) = none := by
        split
        · next dollar =>
            refine Option.eq_none_iff_forall_ne_some.2 fun piece scanned => ?_
            obtain ⟨after, found⟩ := found_of_placeholderAt? scanned
            exact alone dollar piece after found
        · rfl
      rw [pieces, piecesFrom, none, ← ih, pieces]
  | @placeholder piece inside after cut found _ ih =>
      obtain ⟨middle, written, parts⟩ := found.exists_chars
      rw [pieces, piecesFrom, if_pos rfl, placeholderAt?_of_found found]
      simp only [written, List.length_cons, Nat.add_sub_cancel]
      rw [parts, piecesFrom_append, ← ih, pieces]

/-- Every text is cut up in one way, and that is what the scanner gives. -/
theorem cut_pieces (chars : List Char) : Cut chars (pieces chars) := by
  induction length : chars.length using Nat.strong_induction_on generalizing chars with
  | _ n ih =>
      suffices ∃ cut, Cut chars cut by
        obtain ⟨cut, cuts⟩ := this
        rwa [pieces_of_cut cuts]
      cases chars with
      | nil => exact ⟨[], Cut.nil⟩
      | cons c rest =>
          by_cases placed : c = '$' ∧ ∃ piece after, Found piece rest after
          · obtain ⟨rfl, piece, after, found⟩ := placed
            have shorter : after.length < n := by
              obtain ⟨middle, _, rfl⟩ := found.exists_chars
              rw [← length, List.length_cons, List.length_append]
              omega
            exact ⟨_, Cut.placeholder found (ih after.length shorter after rfl)⟩
          · have alone : c = '$' → ∀ piece after, ¬ Found piece rest after :=
              fun dollar piece after found => placed ⟨dollar, piece, after, found⟩
            exact ⟨_, Cut.plain alone (ih rest.length (by simp [← length]) rest rfl)⟩

/-! ## Putting something in the place of pieces -/

/-- The name of a placeholder. -/
def Piece.name? : Piece → Option (List Char)
  | .plain _ => none
  | .bare name | .braced name => some name

/-- What no placeholder can begin in, end in or go on with. -/
structure Sealed (chars : List Char) : Prop where
  undollared : '$' ∉ chars
  starts : ∃ c rest, chars = c :: rest ∧ isNameChar c = false ∧ c ≠ '\x7b' ∧ c ≠ '\x7d'

/-- A rewriting that leaves a piece as it is or puts something sealed in its place. -/
def Sealing (rewrite : Piece → List Char) : Prop :=
  ∀ piece, (∀ name ∈ piece.name?, IsName name) →
    rewrite piece = piece.chars ∨ Sealed (rewrite piece)

/-- The pieces that a rewritten piece is read as. -/
def rescanned (rewrite : Piece → List Char) (piece : Piece) : List Piece :=
  if rewrite piece = piece.chars then [piece] else (rewrite piece).map .plain

theorem Found.isName {piece : Piece} {inside after : List Char} (found : Found piece inside after) :
    ∀ name ∈ piece.name?, IsName name := by
  cases found with
  | bare named _ =>
      rintro name ⟨⟩
      exact named
  | braced named =>
      rintro name ⟨⟩
      exact named

theorem exists_found_of_isName {name : List Char} (named : IsName name) (rest : List Char) :
    ∃ piece after, Found piece (name ++ rest) after := by
  obtain ⟨c, others, rfl, starts⟩ := named.starts
  have some : nameAt (c :: others ++ rest) ≠ [] := by simp [nameAt, starts]
  obtain ⟨after, longest, ends, parts⟩ := exists_of_nameAt some
  rw [parts]
  exact ⟨_, after, Found.bare longest ends⟩

theorem cut_append_plain {front rest : List Char} {cut : List Piece} (undollared : '$' ∉ front)
    (cuts : Cut rest cut) : Cut (front ++ rest) (front.map .plain ++ cut) := by
  induction front with
  | nil => exact cuts
  | cons c front ih =>
      simp only [List.mem_cons, not_or] at undollared
      exact Cut.plain (fun dollar => absurd dollar.symm undollared.1) (ih undollared.2)

section Rewriting

variable {rewrite : Piece → List Char} (sealing : Sealing rewrite)
include sealing

/-- A brace or a character of a name, at the front of a rewritten text, was there before. -/
theorem exists_of_rewritten_cons {chars : List Char} {cut : List Piece} (cuts : Cut chars cut)
    {c : Char} {rest : List Char} (written : cut.flatMap rewrite = c :: rest)
    (matters : isNameChar c = true ∨ c = '\x7b' ∨ c = '\x7d') :
    ∃ before left, chars = c :: before ∧ Cut before left ∧ rest = left.flatMap rewrite := by
  have unsealed : ∀ {front back : List Char}, Sealed front → front ++ back ≠ c :: rest := by
    rintro front back ⟨_, d, others, rfl, ends, opens, closes⟩ same
    obtain ⟨rfl, _⟩ := List.cons.inj same
    rcases matters with name | rfl | rfl
    · simp [name] at ends
    · exact opens rfl
    · exact closes rfl
  cases cuts with
  | nil => cases written
  | @plain d before left alone cuts =>
      rw [List.flatMap_cons] at written
      rcases sealing (.plain d) (by simp [Piece.name?]) with kept | hidden
      · rw [kept] at written
        obtain ⟨rfl, rfl⟩ := List.cons.inj written
        exact ⟨before, left, rfl, cuts, rfl⟩
      · exact absurd written (unsealed hidden)
  | @placeholder piece inside after left found cuts =>
      rw [List.flatMap_cons] at written
      rcases sealing piece found.isName with kept | hidden
      · obtain ⟨middle, shown, _⟩ := found.exists_chars
        rw [kept, shown] at written
        obtain ⟨rfl, _⟩ := List.cons.inj written
        exact absurd matters (by decide)
      · exact absurd written (unsealed hidden)

theorem exists_of_rewritten_append {name : List Char}
    (inside : ∀ c ∈ name, isNameChar c = true) {chars : List Char} {cut : List Piece}
    (cuts : Cut chars cut) {rest : List Char} (written : cut.flatMap rewrite = name ++ rest) :
    ∃ before left, chars = name ++ before ∧ Cut before left ∧ rest = left.flatMap rewrite := by
  induction name generalizing chars cut with
  | nil => exact ⟨chars, cut, rfl, cuts, written.symm⟩
  | cons c name ih =>
      obtain ⟨first, others⟩ := List.forall_mem_cons.1 inside
      obtain ⟨before, left, rfl, cuts, rest⟩ :=
        exists_of_rewritten_cons sealing cuts written (Or.inl first)
      obtain ⟨before, left, rfl, done⟩ := ih others cuts rest.symm
      exact ⟨before, left, rfl, done⟩

theorem endsName_rewritten {chars : List Char} {cut : List Piece} (cuts : Cut chars cut)
    (ends : EndsName chars) : EndsName (cut.flatMap rewrite) := by
  intro c first
  obtain ⟨rest, written⟩ := List.head?_eq_some_iff.1 first
  by_contra inside
  rw [Bool.not_eq_false] at inside
  obtain ⟨before, _, rfl, _⟩ := exists_of_rewritten_cons sealing cuts written (Or.inl inside)
  rw [ends c rfl] at inside
  cases inside

/-- A dollar sign that stands alone still does. -/
theorem exists_found_of_rewritten {chars : List Char} {cut : List Piece} (cuts : Cut chars cut)
    {piece : Piece} {after : List Char} (found : Found piece (cut.flatMap rewrite) after) :
    ∃ earlier behind, Found earlier chars behind := by
  generalize written : cut.flatMap rewrite = rewritten at found
  cases found with
  | bare named _ =>
      obtain ⟨before, _, rfl, _⟩ := exists_of_rewritten_append sealing named.inside cuts written
      exact exists_found_of_isName named before
  | @braced name _ named =>
      obtain ⟨_, _, rfl, cuts, written⟩ :=
        exists_of_rewritten_cons sealing cuts written (Or.inr (Or.inl rfl))
      obtain ⟨_, _, rfl, cuts, written⟩ :=
        exists_of_rewritten_append sealing named.inside cuts written.symm
      obtain ⟨_, _, rfl, _⟩ :=
        exists_of_rewritten_cons sealing cuts written.symm (Or.inr (Or.inr rfl))
      exact ⟨_, _, Found.braced named⟩

theorem cut_rewritten_piece {piece : Piece} {inside after : List Char} {cut : List Piece}
    (found : Found piece inside after) (cuts : Cut after cut)
    (others : Cut (cut.flatMap rewrite) (cut.flatMap (rescanned rewrite))) :
    Cut (rewrite piece ++ cut.flatMap rewrite)
      (rescanned rewrite piece ++ cut.flatMap (rescanned rewrite)) := by
  by_cases kept : rewrite piece = piece.chars
  · rw [rescanned, if_pos kept, kept]
    cases found with
    | bare named ends =>
        exact Cut.placeholder (Found.bare named (endsName_rewritten sealing cuts ends)) others
    | braced named => simpa [Piece.chars] using Cut.placeholder (Found.braced named) others
  · rw [rescanned, if_neg kept]
    exact cut_append_plain ((sealing piece found.isName).resolve_left kept).undollared others

/-- Scanning a rewritten text again finds the pieces that were left as they are, and no others. -/
theorem cut_rewritten {chars : List Char} {cut : List Piece} (cuts : Cut chars cut) :
    Cut (cut.flatMap rewrite) (cut.flatMap (rescanned rewrite)) := by
  induction cuts with
  | nil => exact Cut.nil
  | @plain c rest cut alone cuts ih =>
      rw [List.flatMap_cons, List.flatMap_cons]
      by_cases kept : rewrite (.plain c) = (Piece.plain c).chars
      · rw [rescanned, if_pos kept, kept]
        refine Cut.plain (fun dollar piece after found => ?_) ih
        obtain ⟨earlier, behind, found⟩ := exists_found_of_rewritten sealing cuts found
        exact alone dollar earlier behind found
      · rw [rescanned, if_neg kept]
        have hidden := (sealing (.plain c) (by simp [Piece.name?])).resolve_left kept
        exact cut_append_plain hidden.undollared ih
  | placeholder found cuts ih => exact cut_rewritten_piece sealing found cuts ih

theorem pieces_rewritten (chars : List Char) :
    pieces ((pieces chars).flatMap rewrite) = (pieces chars).flatMap (rescanned rewrite) :=
  pieces_of_cut (cut_rewritten sealing (cut_pieces chars))

end Rewriting

theorem isName_of_mem_pieces {chars : List Char} {piece : Piece} (present : piece ∈ pieces chars) :
    ∀ name ∈ piece.name?, IsName name := by
  have cuts := cut_pieces chars
  generalize pieces chars = cut at cuts present
  induction cuts with
  | nil => cases present
  | plain _ _ ih =>
      rcases List.mem_cons.1 present with rfl | later
      · simp [Piece.name?]
      · exact ih later
  | placeholder found _ ih =>
      rcases List.mem_cons.1 present with rfl | later
      · exact found.isName
      · exact ih later

/-! ## Conversion -/

/-- A placeholder for one of the names. -/
def Piece.isListed (names : List String) (piece : Piece) : Bool :=
  piece.name?.any fun name => names.contains (String.ofList name)

/-- The placeholders of a text, from left to right. -/
def placeholders (text : String) : List Piece :=
  (pieces text.toList).filter fun piece => piece.name?.isSome

theorem converted_of_isListed {names : List String} {piece : Piece}
    (listed : piece.isListed names = true) :
    ∃ name, piece.name? = some name ∧ piece.converted names = '%' :: name ++ ['%'] := by
  cases piece with
  | plain c => cases listed
  | bare name => exact ⟨name, rfl, if_pos listed⟩
  | braced name => exact ⟨name, rfl, if_pos listed⟩

theorem converted_of_not_isListed {names : List String} {piece : Piece}
    (unlisted : piece.isListed names = false) : piece.converted names = piece.chars := by
  cases piece with
  | plain c => rfl
  | bare name => exact if_neg (ne_true_of_eq_false unlisted)
  | braced name => exact if_neg (ne_true_of_eq_false unlisted)

theorem sealed_reference {name : List Char} (named : IsName name) :
    Sealed ('%' :: name ++ ['%']) where
  undollared := by
    have inside : '$' ∉ name := named.not_mem (by decide)
    simp [inside]
  starts := ⟨'%', name ++ ['%'], rfl, by decide, by decide, by decide⟩

theorem sealing_converted (names : List String) : Sealing (Piece.converted names) := by
  intro piece named
  cases listed : piece.isListed names with
  | false => exact Or.inl (converted_of_not_isListed listed)
  | true =>
      obtain ⟨name, has, written⟩ := converted_of_isListed listed
      rw [written]
      exact Or.inr (sealed_reference (named name has))

theorem rescanned_converted_of_isListed {names : List String} {piece : Piece}
    (listed : piece.isListed names = true) :
    rescanned (Piece.converted names) piece = (piece.converted names).map .plain := by
  obtain ⟨name, has, written⟩ := converted_of_isListed listed
  have changed : piece.converted names ≠ piece.chars := by
    rw [written]
    cases piece <;> simp [Piece.chars] at has ⊢
  rw [rescanned, if_neg changed]

theorem rescanned_converted_of_not_isListed {names : List String} {piece : Piece}
    (unlisted : piece.isListed names = false) :
    rescanned (Piece.converted names) piece = [piece] :=
  if_pos (converted_of_not_isListed unlisted)

theorem flatMap_converted_plain (names : List String) (chars : List Char) :
    (chars.map Piece.plain).flatMap (Piece.converted names) = chars := by
  induction chars with
  | nil => rfl
  | cons c rest ih => exact congrArg (c :: ·) ih

theorem isListed_union (first second : List String) (piece : Piece) :
    piece.isListed (first ∪ second) = (piece.isListed first || piece.isListed second) := by
  cases piece with
  | plain c => rfl
  | bare name | braced name => simp [Piece.isListed, Piece.name?, Bool.decide_or]

theorem converted_congr {left right : List String} {piece : Piece}
    (same : piece.isListed left = piece.isListed right) :
    piece.converted left = piece.converted right := by
  cases piece with
  | plain c => rfl
  | bare name | braced name =>
      simp only [Piece.isListed, Piece.name?, Option.any_some] at same
      simp only [Piece.converted, same]

theorem flatMap_rescanned_converted (first second : List String) (piece : Piece) :
    (rescanned (Piece.converted first) piece).flatMap (Piece.converted second) =
      piece.converted (first ∪ second) := by
  have both := isListed_union first second piece
  cases listed : piece.isListed first with
  | false =>
      rw [rescanned_converted_of_not_isListed listed, List.flatMap_singleton]
      exact converted_congr (by rw [both, listed, Bool.false_or])
  | true =>
      rw [rescanned_converted_of_isListed listed, flatMap_converted_plain]
      exact converted_congr (by rw [both, listed, Bool.true_or])

theorem convertChars_convertChars (first second : List String) (chars : List Char) :
    convertChars second (convertChars first chars) = convertChars (first ∪ second) chars := by
  unfold convertChars
  rw [pieces_rewritten (sealing_converted first), List.flatMap_assoc]
  simp only [flatMap_rescanned_converted]

theorem convert_convert (first second : List String) (text : String) :
    convert second (convert first text) = convert (first ∪ second) text := by
  rw [convert, convert, String.toList_ofList, convertChars_convertChars, convert]

/-- The names are a set. -/
theorem convert_congr {left right : List String} (same : ∀ name, name ∈ left ↔ name ∈ right)
    (text : String) : convert left text = convert right text := by
  have each : Piece.converted left = Piece.converted right := by
    funext piece
    refine converted_congr ?_
    simp only [Piece.isListed, List.contains_eq_mem, same]
  rw [convert, convert, convertChars, convertChars, each]

theorem filter_rescanned_converted (names : List String) (piece : Piece) :
    (rescanned (Piece.converted names) piece).filter (fun found => found.name?.isSome) =
      [piece].filter fun found => found.name?.isSome && !found.isListed names := by
  cases listed : piece.isListed names with
  | false => simp [rescanned_converted_of_not_isListed listed, List.filter_cons, listed]
  | true => simp [rescanned_converted_of_isListed listed, listed, Piece.name?]

/-- Converting takes the placeholders for the names out, and leaves the others where they are. -/
theorem placeholders_convert (names : List String) (text : String) :
    placeholders (convert names text) =
      (placeholders text).filter fun piece => !piece.isListed names := by
  unfold placeholders
  rw [convert, String.toList_ofList, convertChars, pieces_rewritten (sealing_converted names),
    List.filter_flatMap, List.filter_filter]
  simp only [filter_rescanned_converted]
  rw [← List.filter_flatMap, List.flatMap_singleton']
  refine List.filter_congr fun piece _ => Bool.and_comm _ _

/-! ## Carets -/

section Carets

open Batch

/-- What escaping makes of a piece. -/
def Piece.guarded : Piece → List Char
  | .plain c => Escape.escapeChar '^' redirections c
  | piece => piece.chars

theorem toList_carets (text : String) :
    (Escape.sequential "^" [">", "<", "|"] text).toList = guarded text.toList :=
  Escape.toList_sequential (show redirections.Nodup by decide)
    (show '^' ∉ redirections.tail by decide) text

theorem guarded_eq_self {chars : List Char} (free : ∀ c ∈ chars, c ∉ redirections) :
    guarded chars = chars := by
  induction chars with
  | nil => rfl
  | cons c rest ih =>
      obtain ⟨first, others⟩ := List.forall_mem_cons.1 free
      rw [guarded, List.flatMap_cons, Escape.escapeChar, if_neg first, ← guarded, ih others]
      rfl

theorem apart_of_mem_redirections {c : Char} (operator : c ∈ redirections) :
    isNameChar c = false ∧ c ∉ ['$', '\x7b', '\x7d', '%'] := by
  have which : c = '>' ∨ c = '<' ∨ c = '|' := by simpa [redirections] using operator
  rcases which with rfl | rfl | rfl
  · decide
  · decide
  · decide

theorem not_mem_chars_of_name {piece : Piece} {name : List Char} (has : piece.name? = some name)
    (named : IsName name) : ∀ c ∈ piece.chars, c ∉ redirections := by
  intro c present operator
  obtain ⟨outside, other⟩ := apart_of_mem_redirections operator
  have absent : c ∉ name := named.not_mem outside
  cases piece with
  | plain d => cases has
  | bare _ | braced _ =>
      cases has
      simp_all [Piece.chars]

theorem sealing_guarded : Sealing Piece.guarded := by
  intro piece _
  cases piece with
  | plain c =>
      by_cases operator : c ∈ redirections
      · have written : Piece.guarded (.plain c) = ['^', c] := if_pos operator
        have dollar : '$' ≠ c := by
          rintro rfl
          exact absurd operator (by decide)
        rw [written]
        exact Or.inr ⟨by simp [dollar], '^', [c], rfl, by decide, by decide, by decide⟩
      · exact Or.inl (if_neg operator)
  | bare name | braced name => exact Or.inl rfl

theorem guarded_chars {piece : Piece} (named : ∀ name ∈ piece.name?, IsName name) :
    guarded piece.chars = piece.guarded := by
  cases has : piece.name? with
  | none =>
      cases piece with
      | plain c => exact List.flatMap_singleton _ c
      | bare name | braced name => cases has
  | some name =>
      rw [guarded_eq_self (not_mem_chars_of_name has (named name has))]
      cases piece with
      | plain c => cases has
      | bare name | braced name => rfl

theorem guarded_eq_flatMap (chars : List Char) :
    guarded chars = (pieces chars).flatMap Piece.guarded := by
  nth_rw 1 [← flatMap_chars_pieces chars]
  rw [guarded, List.flatMap_assoc]
  refine List.flatMap_congr fun piece present => ?_
  exact guarded_chars (isName_of_mem_pieces present)

/-- The carets go before plain characters only, and conversion changes placeholders only. -/
theorem flatMap_rescanned_guarded (names : List String) {piece : Piece}
    (named : ∀ name ∈ piece.name?, IsName name) :
    (rescanned Piece.guarded piece).flatMap (Piece.converted names) =
      guarded (piece.converted names) := by
  cases has : piece.name? with
  | none =>
      cases piece with
      | plain c =>
          have shown : guarded ((Piece.plain c).converted names) = (Piece.plain c).guarded :=
            List.flatMap_singleton _ c
          rw [shown, rescanned]
          split
          · next kept =>
              rw [List.flatMap_singleton, kept]
              rfl
          · exact flatMap_converted_plain names _
      | bare name | braced name => cases has
  | some name =>
      have kept : piece.guarded = piece.chars := by
        cases piece with
        | plain c => cases has
        | bare name | braced name => rfl
      have free : ∀ c ∈ piece.converted names, c ∉ redirections := by
        intro c present operator
        rw [mem_converted_iff names (apart_of_mem_redirections operator).2] at present
        exact not_mem_chars_of_name has (named name has) c present operator
      rw [rescanned, if_pos kept, List.flatMap_singleton, guarded_eq_self free]

theorem guarded_convertChars (names : List String) (chars : List Char) :
    guarded (convertChars names chars) = convertChars names (guarded chars) := by
  rw [convertChars, convertChars, guarded_eq_flatMap chars, pieces_rewritten sealing_guarded,
    List.flatMap_assoc, guarded, List.flatMap_assoc]
  refine List.flatMap_congr fun piece present => ?_
  exact (flatMap_rescanned_guarded names (isName_of_mem_pieces present)).symm

end Carets

/-- Conversion with one set of names after another is conversion with all of them, it takes out the
placeholders for its names and no others, and it can be done before or after the escaping of the
operators that redirect. -/
theorem conversion_composes (first second : List String) (text : String) :
    convert second (convert first text) = convert (first ∪ second) text ∧
    convert first (convert first text) = convert first text ∧
    convert second (convert first text) = convert first (convert second text) ∧
    (∀ piece ∈ placeholders (convert first text), piece.isListed first = false) ∧
    placeholders (convert first text) =
      (placeholders text).filter (fun piece => !piece.isListed first) ∧
    Escape.sequential "^" [">", "<", "|"] (convert first text) =
      convert first (Escape.sequential "^" [">", "<", "|"] text) := by
  refine ⟨convert_convert first second text, ?_, ?_, ?_, placeholders_convert first text, ?_⟩
  · rw [convert_convert]
    exact convert_congr (by simp) text
  · rw [convert_convert, convert_convert]
    exact convert_congr (by simp [or_comm]) text
  · rw [placeholders_convert]
    intro piece present
    simpa using (List.mem_filter.1 present).2
  · rw [← String.toList_inj, toList_carets, convert, convert, String.toList_ofList,
      String.toList_ofList, toList_carets, guarded_convertChars]

example : convert ["B"] (convert ["A"] "$$A$B>$\x7bA$\x7bA\x7d\x7d") = "$%A%%B%>$\x7bA%A%\x7d" := by
  decide +kernel

end Placeholder

end ShellMenu
