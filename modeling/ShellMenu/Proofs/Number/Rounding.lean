import ShellMenu.Number.Binary64
import Mathlib.Tactic.Ring

/-
  What rounding to a double keeps. A quotient is never rounded across a number that is a double
  itself. Below 2 ^ 48 the doubles are less than an eighth apart, so every eighth is one of them.
-/

namespace ShellMenu.Binary64

variable {numerator denominator bound : Nat}

theorem le_roundQuotient (positive : 0 < denominator) (above : bound * denominator ≤ numerator) :
    bound ≤ roundQuotient numerator denominator := by
  have floor := (Nat.le_div_iff_mul_le positive).2 above
  unfold roundQuotient
  dsimp only
  split
  · exact floor
  · split
    · exact Nat.le_succ_of_le floor
    · split
      · exact floor
      · exact Nat.le_succ_of_le floor

theorem roundQuotient_le (positive : 0 < denominator) (below : numerator ≤ bound * denominator) :
    roundQuotient numerator denominator ≤ bound := by
  have floor : numerator / denominator ≤ bound := Nat.div_le_of_le_mul (by rwa [Nat.mul_comm])
  by_cases exact : numerator % denominator = 0
  · have rounded : roundQuotient numerator denominator = numerator / denominator := by
      simp [roundQuotient, exact, positive]
    rwa [rounded]
  · have strict : numerator < bound * denominator := by
      refine Nat.lt_of_le_of_ne below fun same => exact ?_
      rw [same, Nat.mul_mod_left]
    have room : numerator / denominator + 1 ≤ bound := (Nat.div_lt_iff_lt_mul positive).2 strict
    unfold roundQuotient
    dsimp only
    split
    · exact floor
    · split
      · exact room
      · split
        · exact floor
        · exact room

theorem leading_le (nonzero : numerator ≠ 0) (small : numerator < 2 ^ 48 * denominator) :
    leading numerator denominator ≤ 48 := by
  have digits : numerator.log2 < denominator.log2 + 49 := by
    rw [Nat.log2_lt nonzero]
    calc numerator < 2 ^ 48 * denominator := small
      _ ≤ 2 ^ 48 * 2 ^ (denominator.log2 + 1) :=
          Nat.mul_le_mul_left _ (Nat.le_of_lt Nat.lt_log2_self)
      _ = 2 ^ (denominator.log2 + 49) := by rw [← Nat.pow_add]; congr 1; omega
  unfold leading
  dsimp only
  split
  · omega
  · omega

theorem fraction?_finite (significand digits : Nat) :
    (finite false significand (-((digits : Int) + 1))).fraction? =
      some ((significand : Int), 2 ^ (digits + 1)) := by
  have negative : ¬ 0 ≤ -((digits : Int) + 1) := by omega
  have count : (- -((digits : Int) + 1)).toNat = digits + 1 := by omega
  rw [fraction?, if_neg negative, count]
  rfl

/-- A quotient in steps of `2 ^ -(digits + 2)`. -/
theorem ofRatio_eq {digits : Nat} (nonzero : numerator ≠ 0) (positive : 0 < denominator)
    (step : max minExponent (leading numerator denominator - 52) = -((digits : Int) + 2)) :
    ofRatio false numerator denominator =
      if roundQuotient (numerator * 2 ^ (digits + 2)) denominator = 2 ^ 53 then
        finite false (2 ^ 52) (-((digits : Int) + 1))
      else if roundQuotient (numerator * 2 ^ (digits + 2)) denominator = 0 then finite false 0 0
      else finite false (roundQuotient (numerator * 2 ^ (digits + 2)) denominator)
        (-((digits : Int) + 2)) := by
  have negative : ¬ 0 ≤ -((digits : Int) + 2) := by omega
  have count : (- -((digits : Int) + 2)).toNat = digits + 2 := by omega
  have parts : scaled numerator denominator (-((digits : Int) + 2)) =
      (numerator * 2 ^ (digits + 2), denominator) := by
    rw [scaled, if_neg negative, count]
    rfl
  have given : (decide (numerator = 0) || decide (denominator = 0)) = false := by
    simp [nonzero, Nat.ne_of_gt positive]
  have within (exponent : Int) (low : exponent ≤ 0) : ¬ maxExponent < exponent := by
    rw [maxExponent]
    omega
  rw [ofRatio, given, if_neg Bool.false_ne_true]
  simp only [step, parts, Nat.pow_eq]
  split
  · next carried =>
      have next : -((digits : Int) + 2) + 1 = -((digits : Int) + 1) := by omega
      simp only [next]
      rw [if_neg (by decide), if_neg (within _ (by omega))]
  · rw [if_neg (within _ (by omega))]

/-- A small quotient is rounded to a multiple of a step that is an eighth or less. -/
theorem exists_fraction_ofRatio (positive : 0 < denominator)
    (small : numerator < 2 ^ 48 * denominator) :
    ∃ digits top bottom : Nat, 3 ≤ digits ∧ 0 < bottom ∧
      (ofRatio false numerator denominator).fraction? = some ((top : Int), bottom) ∧
      top * 2 ^ digits = roundQuotient (numerator * 2 ^ digits) denominator * bottom := by
  by_cases zero : numerator = 0
  · subst zero
    refine ⟨3, 0, 1, Nat.le_refl 3, Nat.one_pos, rfl, ?_⟩
    simp [roundQuotient, positive]
  · have bounded := leading_le zero small
    obtain ⟨digits, step⟩ : ∃ digits : Nat,
        max minExponent (leading numerator denominator - 52) = -((digits + 1 : Nat) + 2 : Int) := by
      refine ⟨(-max minExponent (leading numerator denominator - 52) - 3).toNat, ?_⟩
      rw [minExponent]
      omega
    refine ⟨digits + 3, ?_⟩
    rw [ofRatio_eq zero positive step]
    split
    · next carried =>
        refine ⟨2 ^ 52, 2 ^ (digits + 2), by omega, Nat.two_pow_pos _, fraction?_finite _ _, ?_⟩
        rw [carried, ← Nat.pow_add, ← Nat.pow_add]
        congr 1
        omega
    · split
      · next vanished =>
          refine ⟨0, 1, by omega, Nat.one_pos, rfl, ?_⟩
          rw [vanished, Nat.zero_mul, Nat.zero_mul]
      · exact ⟨_, _, by omega, Nat.two_pow_pos _, fraction?_finite _ (digits + 2), rfl⟩

/-- The double nearest to a small quotient is on the same side of every eighth. -/
theorem exists_fraction_between (positive : 0 < denominator)
    (small : numerator < 2 ^ 48 * denominator) :
    ∃ top bottom : Nat, 0 < bottom ∧
      (ofRatio false numerator denominator).fraction? = some ((top : Int), bottom) ∧
      (∀ eighths, eighths * denominator ≤ 8 * numerator → eighths * bottom ≤ 8 * top) ∧
      (∀ eighths, 8 * numerator ≤ eighths * denominator → 8 * top ≤ eighths * bottom) := by
  obtain ⟨digits, top, bottom, fine, some, value, rounded⟩ :=
    exists_fraction_ofRatio positive small
  obtain ⟨more, rfl⟩ := Nat.exists_eq_add_of_le fine
  refine ⟨top, bottom, some, value, fun eighths above => ?_, fun eighths below => ?_⟩
  · have scaled : eighths * 2 ^ more * denominator ≤ numerator * 2 ^ (3 + more) := by
      calc eighths * 2 ^ more * denominator = eighths * denominator * 2 ^ more := by ring
        _ ≤ 8 * numerator * 2 ^ more := Nat.mul_le_mul_right _ above
        _ = numerator * 2 ^ (3 + more) := by ring
    refine Nat.le_of_mul_le_mul_right ?_ (Nat.two_pow_pos (3 + more))
    calc eighths * bottom * 2 ^ (3 + more) = 8 * (eighths * 2 ^ more * bottom) := by ring
      _ ≤ 8 * (roundQuotient (numerator * 2 ^ (3 + more)) denominator * bottom) :=
          Nat.mul_le_mul_left _ (Nat.mul_le_mul_right _ (le_roundQuotient positive scaled))
      _ = 8 * top * 2 ^ (3 + more) := by rw [← rounded]; ring
  · have scaled : numerator * 2 ^ (3 + more) ≤ eighths * 2 ^ more * denominator := by
      calc numerator * 2 ^ (3 + more) = 8 * numerator * 2 ^ more := by ring
        _ ≤ eighths * denominator * 2 ^ more := Nat.mul_le_mul_right _ below
        _ = eighths * 2 ^ more * denominator := by ring
    refine Nat.le_of_mul_le_mul_right ?_ (Nat.two_pow_pos (3 + more))
    calc 8 * top * 2 ^ (3 + more)
        = 8 * (roundQuotient (numerator * 2 ^ (3 + more)) denominator * bottom) := by
          rw [← rounded]; ring
      _ ≤ 8 * (eighths * 2 ^ more * bottom) :=
          Nat.mul_le_mul_left _ (Nat.mul_le_mul_right _ (roundQuotient_le positive scaled))
      _ = eighths * bottom * 2 ^ (3 + more) := by ring

theorem floor?_eq {x : Binary64} {top bottom whole : Nat}
    (value : x.fraction? = some ((top : Int), bottom)) (above : whole * bottom ≤ top)
    (below : top < (whole + 1) * bottom) : x.floor? = some (whole : Int) := by
  have floor : (top : Int).fdiv bottom = whole := by
    rw [← Int.ofNat_fdiv, Nat.div_eq_of_lt_le above below]
  rw [floor?, value, Option.map_some]
  exact congrArg some floor

theorem addHalf_eq {x : Binary64} {top bottom : Nat}
    (value : x.fraction? = some ((top : Int), bottom)) :
    x.addHalf = ofRatio false (2 * top + bottom) (2 * bottom) := by
  have total : 2 * (top : Int) + bottom = ((2 * top + bottom : Nat) : Int) := by push_cast; rfl
  have positive : decide (((2 * top + bottom : Nat) : Int) < 0) = false :=
    decide_eq_false (by omega)
  rw [addHalf, value]
  dsimp only
  rw [total, positive, Int.natAbs_natCast]

/-- The quotient is rounded, a half is added, and the sum is rounded in turn. From a half below a
whole number to three eighths above it neither rounding goes across an eighth, so the floor of the
result is that number. -/
theorem floor?_addHalf_ofRatio {whole : Nat} (positive : 0 < denominator)
    (small : whole < 2 ^ 48 - 1) (above : (8 * whole - 4) * denominator ≤ 8 * numerator)
    (below : 8 * numerator ≤ (8 * whole + 3) * denominator) :
    (ofRatio false numerator denominator).addHalf.floor? = some (whole : Int) := by
  have limit (steps : Nat) : whole * steps ≤ (2 ^ 48 - 2) * steps :=
    Nat.mul_le_mul_right steps (by omega)
  have first : numerator < 2 ^ 48 * denominator := by
    have bounded := limit denominator
    rw [Nat.add_mul, Nat.mul_assoc] at below
    omega
  obtain ⟨top, bottom, some, value, low, high⟩ := exists_fraction_between positive first
  have topAbove := low _ above
  have topBelow := high _ below
  rw [Nat.sub_mul, Nat.mul_assoc] at topAbove
  rw [Nat.add_mul, Nat.mul_assoc] at topBelow
  have second : 2 * top + bottom < 2 ^ 48 * (2 * bottom) := by
    have bounded := limit bottom
    omega
  obtain ⟨sum, unit, _, sumValue, sumLow, sumHigh⟩ := exists_fraction_between
    (Nat.mul_pos Nat.two_pos some) second
  have sumAbove := sumLow (8 * whole) (by rw [Nat.mul_assoc, Nat.mul_left_comm whole]; omega)
  have sumBelow := sumHigh (8 * whole + 7) (by
    rw [Nat.add_mul, Nat.mul_assoc, Nat.mul_left_comm whole]; omega)
  rw [addHalf_eq value]
  refine floor?_eq sumValue ?_ ?_
  · rw [Nat.mul_assoc] at sumAbove
    omega
  · rw [Nat.add_mul, Nat.mul_assoc] at sumBelow
    rw [Nat.add_mul]
    omega

end ShellMenu.Binary64
