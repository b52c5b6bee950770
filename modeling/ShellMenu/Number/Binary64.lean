/-
  Double-precision numbers, as exact values. A finite one is `significand * 2 ^ exponent` with a
  sign; rounding goes to the nearest double, and from halfway to the even significand.
-/

namespace ShellMenu

inductive Binary64 where
  | finite (negative : Bool) (significand : Nat) (exponent : Int)
  | infinite (negative : Bool)
  | nan
deriving DecidableEq, Repr

namespace Binary64

/-- The exponent of the smallest steps. -/
def minExponent : Int := -1074

/-- The exponent of the largest steps. -/
def maxExponent : Int := 971

/-- The nearest natural number to a quotient, the even one of two. -/
def roundQuotient (numerator denominator : Nat) : Nat :=
  let floor := numerator / denominator
  let rest := 2 * (numerator % denominator)
  if rest < denominator then floor
  else if denominator < rest then floor + 1
  else if floor % 2 = 0 then floor else floor + 1

/-- `numerator / denominator` as a quotient in units of `2 ^ exponent`. -/
def scaled (numerator denominator : Nat) (exponent : Int) : Nat × Nat :=
  if 0 ≤ exponent then (numerator, denominator * Nat.pow 2 exponent.toNat)
  else (numerator * Nat.pow 2 (-exponent).toNat, denominator)

/-- The binary exponent of the leading digit. -/
def leading (numerator denominator : Nat) : Int :=
  let guess : Int := (numerator.log2 : Int) - denominator.log2
  let (above, below) := scaled numerator denominator guess
  if below ≤ above then guess else guess - 1

/-- The double nearest to a quotient. -/
def ofRatio (negative : Bool) (numerator denominator : Nat) : Binary64 :=
  if numerator = 0 || denominator = 0 then .finite negative 0 0
  else
    let exponent := max minExponent (leading numerator denominator - 52)
    let (above, below) := scaled numerator denominator exponent
    let significand := roundQuotient above below
    let (significand, exponent) :=
      if significand = Nat.pow 2 53 then (Nat.pow 2 52, exponent + 1) else (significand, exponent)
    if significand = 0 then .finite negative 0 0
    else if maxExponent < exponent then .infinite negative
    else .finite negative significand exponent

def ofInt (value : Int) : Binary64 :=
  ofRatio (value < 0) value.natAbs 1

/-- The double nearest to `digits * 10 ^ exponent`. Beyond the first bound every value is
infinite, and below the second it is zero. -/
def ofDecimal (negative : Bool) (digits : Nat) (exponent : Int) : Binary64 :=
  let size : Int := (Nat.toDigits 10 digits).length + exponent
  if digits = 0 then .finite negative 0 0
  else if 320 < size then .infinite negative
  else if size < -340 then .finite negative 0 0
  else if 0 ≤ exponent then ofRatio negative (digits * Nat.pow 10 exponent.toNat) 1
  else ofRatio negative digits (Nat.pow 10 (-exponent).toNat)

def signed (negative : Bool) (magnitude : Nat) : Int :=
  if negative then -(magnitude : Int) else magnitude

/-- The exact value of a finite double, as a fraction. -/
def fraction? : Binary64 → Option (Int × Nat)
  | .finite negative significand exponent =>
      if 0 ≤ exponent then some (signed negative (significand * Nat.pow 2 exponent.toNat), 1)
      else some (signed negative significand, Nat.pow 2 (-exponent).toNat)
  | _ => none

/-- The value, when it is an integer. -/
def toInt? (x : Binary64) : Option Int :=
  x.fraction?.bind fun (numerator, denominator) =>
    if numerator % denominator = 0 then some (numerator / denominator) else none

def isZero : Binary64 → Bool
  | .finite _ significand _ => significand = 0
  | _ => false

/-- A half more, rounded to a double; only finite values move. -/
def addHalf (x : Binary64) : Binary64 :=
  match x.fraction? with
  | some (numerator, denominator) =>
      let total := 2 * numerator + denominator
      ofRatio (total < 0) total.natAbs (2 * denominator)
  | none => x

/-- The greatest integer not above a finite double. -/
def floor? (x : Binary64) : Option Int :=
  x.fraction?.map fun (numerator, denominator) => numerator.fdiv denominator

end Binary64

end ShellMenu
