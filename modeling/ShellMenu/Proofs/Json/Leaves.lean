import ShellMenu.Json.Reader
import ShellMenu.Json.Writer
import ShellMenu.Proofs.Number.Text

/-
  Texts and integers survive being written. Every character of a text is written as itself, as a
  short escape, or as one code unit or two in hexadecimal digits; reading turns it into one code
  point or two units again, and joining the pairs gives the characters back. An integer is read to
  its last digit, because what follows a value in a file is neither a digit, a point nor an
  exponent.
-/

namespace ShellMenu

theorem Text.hexValue?_hexDigit (n : Nat) : Text.hexValue? (Text.hexDigit n) = some (n % 16) := by
  have each : ∀ digit < 16, Text.hexValue? (Nat.digitChar digit) = some digit := by decide
  exact each (n % 16) (Nat.mod_lt n (by decide))

namespace Json

/-! ## Code units -/

/-- The code points below the pairs stand for themselves. -/
def charUnits (c : Char) : List Nat :=
  if c.toNat < 0x10000 then [c.toNat]
  else [0xd800 + (c.toNat - 0x10000) / 0x400, 0xdc00 + (c.toNat - 0x10000) % 0x400]

/-- The units of all that a text shows or escapes, wherever in the text it stands. -/
def textUnits : List Char → List Nat
  | '\\' :: 'u' :: a :: b :: c :: d :: rest => (codeUnit? a b c d).getD 0 :: textUnits rest
  | '\\' :: c :: rest => c.toNat :: textUnits rest
  | c :: rest => c.toNat :: textUnits rest
  | [] => []

/-- Each half of a pair has its other half beside it. -/
def isPaired : List Nat → Bool
  | high :: low :: rest =>
      if isHighUnit high && isLowUnit low then isPaired rest
      else !(isHighUnit high || isLowUnit high) && isPaired (low :: rest)
  | [single] => !(isHighUnit single || isLowUnit single)
  | [] => true

example : isPaired (textUnits "\\ud83d\\ude00 \\\\ud83d".toList) = true := by decide
example : isPaired (textUnits "\\ude00".toList) = false := by decide

theorem char_range (c : Char) :
    c.toNat < 0x110000 ∧ isHighUnit c.toNat = false ∧ isLowUnit c.toNat = false := by
  have valid : c.toNat < 0xd800 ∨ 0xdfff < c.toNat ∧ c.toNat < 0x110000 := c.valid
  simp only [isHighUnit, isLowUnit, Bool.and_eq_false_iff, decide_eq_false_iff_not]
  omega

section

variable {more rest : List Char} {units : List Nat}

theorem readUnits_plain (followed : readUnits more = .ok (units, rest)) {c : Char}
    (quote : c ≠ '"') (escape : c ≠ '\\') (visible : 0x20 ≤ c.toNat) :
    readUnits (c :: more) = .ok (c.toNat :: units, rest) := by
  rw [readUnits, if_neg (by omega), followed]
  · rfl
  · exact quote
  all_goals simp [escape]

theorem readUnits_escape (followed : readUnits more = .ok (units, rest)) {c meant : Char}
    (simple : simpleEscape? c = some meant) :
    readUnits ('\\' :: c :: more) = .ok (meant.toNat :: units, rest) := by
  have other : c ≠ 'u' := by
    rintro rfl
    have none : simpleEscape? 'u' = none := by decide
    cases none.symm.trans simple
  rw [readUnits, if_neg other, simple, followed]
  · rfl
  · simp [other]

theorem readUnits_unitEscape (followed : readUnits more = .ok (units, rest)) {unit : Nat}
    (small : unit < 0x10000) : readUnits (unitEscape unit ++ more) = .ok (unit :: units, rest) := by
  have digits : unitEscape unit = ['\\', 'u', Text.hexDigit (unit / 16 / 16 / 16),
      Text.hexDigit (unit / 16 / 16), Text.hexDigit (unit / 16), Text.hexDigit unit] := rfl
  have value : codeUnit? (Text.hexDigit (unit / 16 / 16 / 16)) (Text.hexDigit (unit / 16 / 16))
      (Text.hexDigit (unit / 16)) (Text.hexDigit unit) = some unit := by
    simp only [codeUnit?, Text.hexValue?_hexDigit, Option.pure_def, Option.bind_eq_bind,
      Option.bind_some, Option.some.injEq]
    omega
  cases more with
  | nil => simp [readUnits, refuse] at followed
  | cons next more =>
      simp only [digits, List.cons_append, List.nil_append]
      rw [readUnits.eq_4 _ _ _ _ _ _ _ value, followed]
      rfl

/-- What is written for a character is read as its code units. -/
theorem readUnits_writtenChar (followed : readUnits more = .ok (units, rest)) (c : Char) :
    readUnits (writtenChar c ++ more) = .ok (charUnits c ++ units, rest) := by
  have short : ∀ {escape meant : Char}, simpleEscape? escape = some meant → meant.toNat < 0x10000 →
      readUnits (['\\', escape] ++ more) = .ok (charUnits meant ++ units, rest) := by
    intro escape meant simple small
    rw [charUnits, if_pos small]
    exact readUnits_escape followed simple
  unfold writtenChar
  split
  · next special =>
      simp only [Bool.or_eq_true, decide_eq_true_eq] at special
      rcases special with rfl | rfl <;> exact short (by decide) (by decide)
  next special =>
  simp only [Bool.or_eq_true, decide_eq_true_eq, not_or] at special
  iterate 5
    split
    · next same => exact same ▸ short (by decide) (by decide)
  split
  · next visible =>
      simp only [Bool.and_eq_true, decide_eq_true_eq] at visible
      rw [charUnits, if_pos (by omega)]
      exact readUnits_plain followed special.1 special.2 visible.1
  split
  · next small =>
      rw [charUnits, if_pos small]
      exact readUnits_unitEscape followed small
  · next large =>
      have bound := (char_range c).1
      rw [charUnits, if_neg large, List.append_assoc]
      exact readUnits_unitEscape (readUnits_unitEscape followed (by omega)) (by omega)

end

theorem readUnits_written (chars rest : List Char) :
    readUnits (chars.flatMap writtenChar ++ '"' :: rest) = .ok (chars.flatMap charUnits, rest) := by
  induction chars with
  | nil => rfl
  | cons c chars ih =>
      rw [List.flatMap_cons, List.flatMap_cons, List.append_assoc]
      exact readUnits_writtenChar ih c

/-! ## Pairs -/

theorem joinPairs_cons {unit : Nat} (single : isHighUnit unit = false) (units : List Nat) :
    joinPairs (unit :: units) = unitChar unit :: joinPairs units := by
  cases units with
  | nil => rfl
  | cons low rest => rw [joinPairs, single, Bool.false_and, if_neg Bool.false_ne_true]

theorem joinPairs_pair {high low : Nat} (first : isHighUnit high = true)
    (second : isLowUnit low = true) (units : List Nat) :
    joinPairs (high :: low :: units) = Char.ofNat (joinUnits high low) :: joinPairs units := by
  rw [joinPairs, first, second, Bool.and_self, if_pos rfl]

theorem joinPairs_charUnits (c : Char) (units : List Nat) :
    joinPairs (charUnits c ++ units) = c :: joinPairs units := by
  obtain ⟨bound, high, low⟩ := char_range c
  unfold charUnits
  split
  · have itself : unitChar c.toNat = c := by
      rw [unitChar, high, low, Bool.or_self, if_neg Bool.false_ne_true, Char.ofNat_toNat]
    rw [List.singleton_append, joinPairs_cons high, itself]
  · next large =>
      have pair : isHighUnit (0xd800 + (c.toNat - 0x10000) / 0x400) = true ∧
          isLowUnit (0xdc00 + (c.toNat - 0x10000) % 0x400) = true := by
        simp only [isHighUnit, isLowUnit, Bool.and_eq_true, decide_eq_true_eq]
        omega
      have joined : joinUnits (0xd800 + (c.toNat - 0x10000) / 0x400)
          (0xdc00 + (c.toNat - 0x10000) % 0x400) = c.toNat := by
        unfold joinUnits
        omega
      rw [List.cons_append, List.singleton_append, joinPairs_pair pair.1 pair.2, joined,
        Char.ofNat_toNat]

theorem joinPairs_flatMap_charUnits (chars : List Char) :
    joinPairs (chars.flatMap charUnits) = chars := by
  induction chars with
  | nil => rfl
  | cons c chars ih => rw [List.flatMap_cons, joinPairs_charUnits, ih]

theorem toList_writtenString (text : String) (rest : List Char) :
    (writtenString text).toList ++ rest =
      '"' :: (text.toList.flatMap writtenChar ++ '"' :: rest) := by
  simp [writtenString]

theorem readString_written (text : String) (rest : List Char) :
    readString (text.toList.flatMap writtenChar ++ '"' :: rest) = .ok (text, rest) := by
  rw [readString, readUnits_written]
  simp [joinPairs_flatMap_charUnits]

/-! ## Integers -/

/-- What follows a value in a file. -/
def Follows (rest : List Char) : Prop :=
  ∃ more, rest = ',' :: more ∨ rest = '\n' :: more

/-- Only zero is written with a zero in front. -/
theorem toDigits_zero_first {n : Nat} {digits : List Char}
    (written : Nat.toDigits 10 n = '0' :: digits) : digits = [] := by
  induction n using Nat.strongRecOn generalizing digits with
  | ind n ih =>
      by_cases single : n < 10
      · rw [Nat.toDigits_of_lt_base single] at written
        exact (List.cons.inj written).2.symm
      · rw [Nat.toDigits_of_base_le (by decide) (by omega)] at written
        cases front : Nat.toDigits 10 (n / 10) with
        | nil => exact absurd front Nat.toDigits_ne_nil
        | cons c others =>
            rw [front, List.cons_append] at written
            have zero : c = '0' := (List.cons.inj written).1
            subst zero
            have value := Nat.ofDigitChars_ten_toDigits (n := n / 10)
            rw [front, ih (n / 10) (by omega) front] at value
            have none : Nat.ofDigitChars 10 ['0'] 0 = 0 := by decide
            omega

theorem wholePart?_toDigits (n : Nat) {rest : List Char} (follows : Follows rest) :
    wholePart? (Nat.toDigits 10 n ++ rest) = some (Nat.toDigits 10 n, rest) := by
  have stops : rest.takeWhile isDigit = [] ∧ rest.dropWhile isDigit = rest := by
    obtain ⟨more, rfl | rfl⟩ := follows <;> exact ⟨rfl, rfl⟩
  have all : ∀ c ∈ Nat.toDigits 10 n, isDigit c = true :=
    fun c present => Nat.isDigit_of_mem_toDigits (by decide) (by decide) present
  cases digits : Nat.toDigits 10 n with
  | nil => exact absurd digits Nat.toDigits_ne_nil
  | cons c others =>
      rw [digits, List.forall_mem_cons] at all
      rw [List.cons_append, wholePart?]
      split
      · next zero =>
          subst zero
          rw [toDigits_zero_first digits]
          rfl
      · rw [if_pos all.1, List.takeWhile_append_of_pos all.2, List.dropWhile_append_of_pos all.2,
          stops.1, stops.2, List.append_nil]

theorem magnitude?_toDigits (negative : Bool) (n : Nat) {rest : List Char}
    (follows : Follows rest) :
    magnitude? negative (Nat.toDigits 10 n ++ rest) =
      some (.int (Binary64.signed negative n), rest) := by
  have value : naturalOf (Nat.toDigits 10 n) = n := Nat.ofDigitChars_ten_toDigits
  rw [magnitude?, wholePart?_toDigits n follows]
  obtain ⟨more, rfl | rfl⟩ := follows
  · simp [fractionPart, exponentPart?, value]
  · simp [fractionPart, exponentPart?, value]

theorem word?_digit {c : Char} (digit : isDigit c = true) (rest : List Char) :
    word? (c :: rest) = none ∧ word? ('-' :: c :: rest) = none := by
  have letters : ∀ d ∈ ['n', 't', 'f', 'N', 'I', '-'], isDigit d = false := by simp [isDigit]
  have other : ∀ d ∈ ['n', 't', 'f', 'N', 'I', '-'], d ≠ c := by
    rintro d present rfl
    rw [letters d present] at digit
    cases digit
  simp only [List.forall_mem_cons] at other
  simp [word?, words, other]

theorem readScalar_integer {value : Int} (short : isShortInteger value = true) {rest : List Char}
    (follows : Follows rest) :
    readScalar ((toString value).toList ++ rest) = .ok (.int value, rest) := by
  have first : ∀ n, ∃ c others, Nat.toDigits 10 n = c :: others ∧ isDigit c = true := by
    intro n
    have nonempty : Nat.toDigits 10 n ≠ [] := Nat.toDigits_ne_nil
    obtain ⟨c, others, digits⟩ := List.exists_cons_of_ne_nil nonempty
    have present : c ∈ Nat.toDigits 10 n := by simp [digits]
    exact ⟨c, others, digits, Nat.isDigit_of_mem_toDigits (by decide) (by decide) present⟩
  suffices found : word? ((toString value).toList ++ rest) = none ∧
      number? ((toString value).toList ++ rest) = some (.int value, rest) by
    rw [readScalar, found.1, found.2]
    simp [hasShortIntegers, short]
  cases value with
  | ofNat n =>
      have text : (toString (Int.ofNat n)).toList = Nat.toDigits 10 n := toList_toString n
      obtain ⟨c, others, digits, digit⟩ := first n
      have magnitude := magnitude?_toDigits false n follows
      rw [text]
      rw [digits, List.cons_append] at magnitude ⊢
      refine ⟨(word?_digit digit _).1, ?_⟩
      rw [number?, magnitude]
      · rfl
      · intro others same
        rw [(List.cons.inj same).1] at digit
        cases digit
  | negSucc n =>
      have text : (toString (Int.negSucc n)).toList = '-' :: Nat.toDigits 10 (n + 1) := by
        have split : toString (Int.negSucc n) = "-" ++ toString (n + 1) := rfl
        rw [split, String.toList_append, toList_toString]
        rfl
      obtain ⟨c, others, digits, digit⟩ := first (n + 1)
      have magnitude := magnitude?_toDigits true (n + 1) follows
      rw [text, List.cons_append]
      rw [digits, List.cons_append] at magnitude ⊢
      refine ⟨(word?_digit digit _).2, ?_⟩
      rw [number?, magnitude]
      rfl

end Json

end ShellMenu
