import ShellMenu.Json.Basic
import ShellMenu.Text.Blank

/-
  The texts of numbers. A double is never written like an integer: there is a point or an exponent
  in its text.
-/

namespace ShellMenu

/-- A character of a number. -/
def IsNumeral (c : Char) : Prop :=
  c.isDigit = true ∨ c = '.' ∨ c = 'e' ∨ c = '+' ∨ c = '-'

theorem IsNumeral.notBlank {c : Char} (numeral : IsNumeral c) : Text.isBlank c = false := by
  rcases numeral with digit | rfl | rfl | rfl | rfl
  · have range : 48 ≤ c.toNat ∧ c.toNat ≤ 57 := by
      simpa [Char.isDigit, Char.le_def, UInt32.le_iff_toNat_le] using digit
    simp only [Text.isBlank, Bool.or_eq_false_iff, Bool.and_eq_false_imp, decide_eq_true_eq,
      decide_eq_false_iff_not, beq_eq_false_iff_ne]
    omega
  · decide
  · decide
  · decide
  · decide

/-- Every character is one of a number. -/
def NumeralText (text : String) : Prop :=
  ∀ c ∈ text.toList, IsNumeral c

theorem NumeralText.append {left right : String} (first : NumeralText left)
    (second : NumeralText right) : NumeralText (left ++ right) := by
  intro c present
  rw [String.toList_append, List.mem_append] at present
  rcases present with before | after
  · exact first c before
  · exact second c after

theorem NumeralText.ofList {digits : List Char} (all : ∀ c ∈ digits, c.isDigit = true) :
    NumeralText (String.ofList digits) := by
  intro c present
  rw [String.toList_ofList] at present
  exact Or.inl (all c present)

theorem NumeralText.apart {text : String} (numeral : NumeralText text) {c : Char}
    (other : ¬ IsNumeral c) : c ∉ text.toList :=
  fun present => other (numeral c present)

theorem toList_toString (n : Nat) : (toString n).toList = Nat.toDigits 10 n :=
  String.toList_ofList

theorem toList_toString_ne_nil (n : Nat) : (toString n).toList ≠ [] := by
  rw [toList_toString]
  exact Nat.toDigits_ne_nil

theorem isDigit_of_mem_toString {n : Nat} {c : Char} (present : c ∈ (toString n).toList) :
    c.isDigit = true := by
  rw [toList_toString] at present
  exact Nat.isDigit_of_mem_toDigits (by decide) (by decide) present

theorem numeral_toString (n : Nat) : NumeralText (toString n) :=
  fun _ present => Or.inl (isDigit_of_mem_toString present)

theorem eq_of_toString_eq {m n : Nat} (same : toString m = toString n) : m = n := by
  have read (n : Nat) : Nat.ofDigitChars 10 (toString n).toList 0 = n := by
    rw [toList_toString]
    exact Nat.ofDigitChars_toDigits (by decide) (by decide)
  rw [← read m, same, read]

/-! ## Integers -/

theorem mem_toString_int {value : Int} {c : Char} (present : c ∈ (toString value).toList) :
    c.isDigit = true ∨ c = '-' := by
  cases value with
  | ofNat n =>
      have same : toString (Int.ofNat n) = toString n := rfl
      rw [same] at present
      exact Or.inl (isDigit_of_mem_toString present)
  | negSucc n =>
      have split : toString (Int.negSucc n) = "-" ++ toString (n + 1) := rfl
      rw [split, String.toList_append, List.mem_append] at present
      rcases present with sign | digits
      · exact Or.inr (by simpa using sign)
      · exact Or.inl (isDigit_of_mem_toString digits)

theorem toList_toString_int_ne_nil (value : Int) : (toString value).toList ≠ [] := by
  cases value with
  | ofNat n => exact toList_toString_ne_nil n
  | negSucc n =>
      have split : toString (Int.negSucc n) = "-" ++ toString (n + 1) := rfl
      rw [split, String.toList_append]
      exact List.cons_ne_nil _ _

/-- Only a negative integer has a sign in its text. -/
theorem eq_of_toString_int_eq {left right : Int} (same : toString left = toString right) :
    left = right := by
  have split (n : Nat) : toString (Int.negSucc n) = "-" ++ toString (n + 1) := rfl
  have unsigned (m n : Nat) : toString (Int.ofNat m) ≠ toString (Int.negSucc n) := by
    intro same
    have sign : '-' ∈ (toString m).toList := by
      rw [show toString m = toString (Int.negSucc n) from same, split]
      simp
    cases isDigit_of_mem_toString sign
  cases left with
  | ofNat m =>
      cases right with
      | ofNat n => exact congrArg Int.ofNat (eq_of_toString_eq same)
      | negSucc n => exact absurd same (unsigned m n)
  | negSucc m =>
      cases right with
      | ofNat n => exact absurd same.symm (unsigned n m)
      | negSucc n =>
          rw [split, split] at same
          exact congrArg Int.negSucc
            (Nat.succ.inj (eq_of_toString_eq ((String.append_right_inj "-").1 same)))

theorem numeral_toString_int (value : Int) : NumeralText (toString value) := by
  intro c present
  rcases mem_toString_int present with digit | sign
  · exact Or.inl digit
  · exact Or.inr (Or.inr (Or.inr (Or.inr sign)))

/-! ## Doubles -/

namespace Binary64

theorem numeral_exponentText (exponent : Int) : NumeralText (exponentText exponent) := by
  have digits := numeral_toString exponent.natAbs
  refine NumeralText.append ?_ ?_
  · split <;> simp [NumeralText, IsNumeral]
  · split
    · exact NumeralText.append (by simp [NumeralText, IsNumeral]) digits
    · exact digits

theorem Decimal.isDigit_of_mem_trimmed {decimal : Decimal} {c : Char}
    (present : c ∈ decimal.trimmed.1) : c.isDigit = true := by
  have inside : c ∈ Nat.toDigits 10 decimal.digits := by
    have backwards := List.mem_reverse.1 present
    exact List.mem_reverse.1 ((List.dropWhile_sublist _).subset backwards)
  exact Nat.isDigit_of_mem_toDigits (by decide) (by decide) inside

theorem Decimal.numeral_text (decimal : Decimal) : NumeralText decimal.text := by
  have digits : ∀ part : List Char, part.Sublist decimal.trimmed.1 →
      NumeralText (String.ofList part) := fun part inside =>
    NumeralText.ofList fun c present => isDigit_of_mem_trimmed (inside.subset present)
  have zeros : ∀ count, NumeralText (Text.repeated count '0') := fun count =>
    NumeralText.ofList fun c present => (List.eq_of_mem_replicate present) ▸ rfl
  have point : NumeralText "." := by simp [NumeralText, IsNumeral]
  unfold Decimal.text
  simp only
  split
  · refine NumeralText.append (NumeralText.append (NumeralText.append ?_ ?_) ?_) ?_
    · exact digits _ (List.take_sublist _ _)
    · split
      · simp [NumeralText]
      · exact point.append (digits _ (List.drop_sublist _ _))
    · simp [NumeralText, IsNumeral]
    · exact numeral_exponentText _
  · split
    · refine NumeralText.append (NumeralText.append ?_ (zeros _)) (digits _ (List.Sublist.refl _))
      simp [NumeralText, IsNumeral]
    · split
      · refine NumeralText.append ((digits _ (List.Sublist.refl _)).append (zeros _)) ?_
        simp [NumeralText, IsNumeral]
      · exact ((digits _ (List.take_sublist _ _)).append point).append
          (digits _ (List.drop_sublist _ _))

theorem Decimal.marked_text (decimal : Decimal) :
    '.' ∈ decimal.text.toList ∨ 'e' ∈ decimal.text.toList := by
  unfold Decimal.text
  simp only
  split
  · exact Or.inr (by simp)
  · split
    · exact Or.inl (by simp)
    · split
      · exact Or.inl (by simp)
      · exact Or.inl (by simp)

theorem numeral_text (negative : Bool) (significand : Nat) (exponent : Int) :
    NumeralText (text (.finite negative significand exponent)) := by
  refine NumeralText.append ?_ ?_
  · split <;> simp [NumeralText, IsNumeral]
  · split
    · simp [NumeralText, IsNumeral]
    · exact Decimal.numeral_text _

theorem marked_text (negative : Bool) (significand : Nat) (exponent : Int) :
    '.' ∈ (text (.finite negative significand exponent)).toList ∨
      'e' ∈ (text (.finite negative significand exponent)).toList := by
  simp only [text, String.toList_append, List.mem_append]
  by_cases zero : significand = 0
  · rw [if_pos zero]
    exact Or.inl (Or.inr (by decide))
  · rw [if_neg zero]
    exact (Decimal.marked_text _).imp Or.inr Or.inr

theorem exists_finite_of_toInt? {x : Binary64} {value : Int} (whole : x.toInt? = some value) :
    ∃ negative significand exponent, x = .finite negative significand exponent := by
  cases x with
  | finite negative significand exponent => exact ⟨negative, significand, exponent, rfl⟩
  | infinite negative => cases whole
  | nan => cases whole

theorem text_ne_toString {x : Binary64} {value : Int} (whole : x.toInt? = some value)
    (other : Int) : x.text ≠ toString other := by
  obtain ⟨negative, significand, exponent, rfl⟩ := exists_finite_of_toInt? whole
  intro same
  have marked := marked_text negative significand exponent
  rw [same] at marked
  rcases marked with point | letter
  · rcases mem_toString_int point with digit | sign
    · cases digit
    · cases sign
  · rcases mem_toString_int letter with digit | sign
    · cases digit
    · cases sign

end Binary64

end ShellMenu
