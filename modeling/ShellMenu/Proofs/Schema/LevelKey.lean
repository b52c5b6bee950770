import ShellMenu.Proofs.Text.Reading
import ShellMenu.Schema.Pattern
import ShellMenu.Text.Integer

/-
  A key that names an access level is read as a positive integer, whatever line feed it ends in.
-/

namespace ShellMenu

/-- What a pattern accepts fits it as a whole, or up to a final line feed. -/
theorem Pattern.exists_fits_of_accepts {pattern : Pattern} {text : String}
    (accepted : pattern.accepts text = true) :
    ∃ body ending, text.toList = body ++ ending ∧ (ending = [] ∨ ending = ['\n']) ∧
      pattern.fits body = true := by
  simp only [accepts, Bool.or_eq_true, Bool.and_eq_true, decide_eq_true_eq] at accepted
  rcases accepted with whole | ⟨final, front⟩
  · exact ⟨text.toList, [], (List.append_nil _).symm, Or.inl rfl, whole⟩
  · obtain ⟨body, same⟩ := List.getLast?_eq_some_iff.1 final
    rw [same, List.dropLast_concat] at front
    exact ⟨body, ['\n'], same, Or.inr rfl, front⟩

namespace Text

/-! ## Digits -/

/-- One of the ten digits of ASCII. -/
def IsDigit (c : Char) : Prop :=
  '0' ≤ c ∧ c ≤ '9'

theorem IsDigit.toNat {c : Char} (digit : IsDigit c) : 48 ≤ c.toNat ∧ c.toNat ≤ 57 :=
  digit

theorem IsDigit.value {c : Char} (digit : IsDigit c) : digitValue? c = some (c.toNat - 48) := by
  have range : '0' ≤ c ∧ c ≤ '9' := digit
  rw [digitValue?, if_pos range]
  rfl

theorem IsDigit.notBlank {c : Char} (digit : IsDigit c) : isNumeralBlank c = false := by
  have range := digit.toNat
  simp only [isNumeralBlank, isBlank, Bool.and_eq_false_imp, Bool.or_eq_true, Bool.and_eq_true,
    decide_eq_true_eq, beq_iff_eq]
  omega

theorem digitsFrom?_eq {digits : List Char} (all : ∀ c ∈ digits, IsDigit c) (value : Nat) :
    digitsFrom? value digits = some (Nat.ofDigitChars 10 digits value) := by
  induction digits generalizing value with
  | nil => rfl
  | cons c rest ih =>
      have digit := all c List.mem_cons_self
      have noBar : c ≠ '_' := by
        rintro rfl
        exact absurd digit.2 (by decide)
      rw [digitsFrom?.eq_def]
      split
      · next empty => cases empty
      · next same =>
          simp only [List.cons.injEq] at same
          exact absurd same.1 noBar
      · next same =>
          simp only [List.cons.injEq] at same
          obtain ⟨rfl, rfl⟩ := same
          have others := ih fun d present => all d (List.mem_cons_of_mem _ present)
          rw [digit.value, Option.bind_some, others, Nat.ofDigitChars_cons]
          rfl

theorem le_ofDigitChars (digits : List Char) (value : Nat) :
    value ≤ Nat.ofDigitChars 10 digits value := by
  induction digits generalizing value with
  | nil => simp
  | cons c rest ih =>
      rw [Nat.ofDigitChars_cons]
      exact Nat.le_trans (by omega) (ih _)

theorem ofDigitChars_lt {digits : List Char} (all : ∀ c ∈ digits, IsDigit c) {value size : Nat}
    (small : value < Nat.pow 10 size) :
    Nat.ofDigitChars 10 digits value < Nat.pow 10 (size + digits.length) := by
  induction digits generalizing value size with
  | nil => simpa using small
  | cons c rest ih =>
      have digit := (all c List.mem_cons_self).toNat
      rw [Nat.ofDigitChars_cons, List.length_cons, Nat.add_comm rest.length, ← Nat.add_assoc]
      refine ih (fun d present => all d (List.mem_cons_of_mem c present)) ?_
      have zero : '0'.toNat = 48 := rfl
      have power : Nat.pow 10 (size + 1) = Nat.pow 10 size * 10 := rfl
      omega

/-! ## Keys -/

theorem exists_digits_of_level {key : String} (level : Pattern.level.accepts key = true) :
    ∃ first rest ending, key.toList = first :: rest ++ ending ∧ (ending = [] ∨ ending = ['\n']) ∧
      '1' ≤ first ∧ first ≤ '9' ∧ ∀ c ∈ rest, IsDigit c := by
  obtain ⟨body, ending, chars, newline, fit⟩ := Pattern.exists_fits_of_accepts level
  cases body with
  | nil => cases fit
  | cons first rest =>
      simp only [Pattern.fits, Pattern.level, Pattern.fitsRest, CharClass.has, ClassMember.has,
        Count.allows, List.any_cons, List.any_nil, Bool.or_false, Bool.bne_false, Bool.and_true,
        Bool.and_eq_true, List.all_eq_true, decide_eq_true_eq] at fit
      exact ⟨first, rest, ending, chars, newline, fit.1.1, fit.1.2, fit.2⟩

/-- Around the digits of a key nothing is left but what the reader of integers drops. -/
theorem integer?_eq_natural? {key : String} {first : Char} {rest ending : List Char}
    (chars : key.toList = first :: rest ++ ending) (newline : ending = [] ∨ ending = ['\n'])
    (all : ∀ c ∈ first :: rest, IsDigit c) :
    integer? key = (natural? (first :: rest)).map Int.ofNat := by
  have firstDigit := all first List.mem_cons_self
  have blank : ∀ c ∈ ending, isNumeralBlank c = true := by
    rcases newline with rfl | rfl
    · simp
    · exact List.forall_mem_singleton.2 rfl
  have trimmed : trimEndChars isNumeralBlank (key.toList.dropWhile isNumeralBlank)
      = first :: rest := by
    rw [chars, List.cons_append, List.dropWhile_cons_of_neg (by simp [firstDigit.notBlank]),
      ← List.cons_append]
    exact trimEndChars_append (fun c last => (all c (List.mem_of_getLast? last)).notBlank) blank
  unfold integer?
  rw [trimmed]
  split
  · next same =>
      simp only [List.cons.injEq] at same
      exact absurd (same.1 ▸ firstDigit.1) (by decide)
  · next same =>
      simp only [List.cons.injEq] at same
      exact absurd (same.1 ▸ firstDigit.1) (by decide)
  · rfl

/-- The key of a level is a positive integer unless it is too long to be read. -/
theorem integer?_of_level {key : String} (level : Pattern.level.accepts key = true) :
    (∃ value : Nat, integer? key = some (value : Int) ∧ 1 ≤ value ∧ value < Nat.pow 10 key.length) ∨
      (integer? key = none ∧ mostDigits < key.length) := by
  obtain ⟨first, rest, ending, chars, newline, low, high, digits⟩ := exists_digits_of_level level
  have firstDigit : IsDigit first := ⟨Char.le_trans (by decide) low, high⟩
  have all : ∀ c ∈ first :: rest, IsDigit c := by
    simpa [firstDigit] using digits
  have length : key.length = rest.length + 1 + ending.length := by
    rw [← String.length_toList, chars, List.length_append, List.length_cons]
  rw [integer?_eq_natural? chars newline all, natural?]
  split
  · next long =>
      have bounded := List.countP_le_length (p := (· ≠ '_')) (l := first :: rest)
      rw [List.length_cons] at bounded
      exact Or.inr ⟨rfl, by omega⟩
  · have firstValue : 1 ≤ first.toNat - 48 ∧ first.toNat - 48 < Nat.pow 10 1 := by
      have least : 49 ≤ first.toNat := low
      have most : first.toNat ≤ 57 := high
      have ten : Nat.pow 10 1 = 10 := rfl
      omega
    rw [firstDigit.value, Option.bind_some, digitsFrom?_eq digits]
    refine Or.inl ⟨_, rfl, Nat.le_trans firstValue.1 (le_ofDigitChars rest _), ?_⟩
    refine Nat.lt_of_lt_of_le (ofDigitChars_lt digits firstValue.2) ?_
    exact Nat.pow_le_pow_right (by decide) (by omega)

end Text

end ShellMenu
