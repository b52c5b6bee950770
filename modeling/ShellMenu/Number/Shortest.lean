import ShellMenu.Number.Binary64
import ShellMenu.Text.Basic

/-
  The shortest decimal text that reads back as the same double, and among those the nearest one.
-/

namespace ShellMenu.Binary64

/-- `digits * 10 ^ exponent`. -/
structure Decimal where
  digits : Nat
  exponent : Int
deriving DecidableEq, Repr

/-- The numbers that round to a double lie between `low` and `high`, with `value` the double
itself; all three are counted in units of `1 / unit`, and `closed` says whether the two ends
round to it as well. -/
structure Interval where
  low : Nat
  value : Nat
  high : Nat
  unit : Nat
  closed : Bool

/-- The neighbour below a power of two is only half as far away. -/
def interval (significand : Nat) (exponent : Int) : Interval :=
  let reach := if significand = Nat.pow 2 52 && minExponent < exponent then 1 else 2
  let power := exponent - 2
  let scale := if 0 ≤ power then Nat.pow 2 power.toNat else 1
  { low := (4 * significand - reach) * scale
    value := 4 * significand * scale
    high := (4 * significand + 2) * scale
    unit := if 0 ≤ power then 1 else Nat.pow 2 (-power).toNat
    closed := significand % 2 = 0 }

def digitCount (n : Nat) : Nat :=
  (Nat.toDigits 10 n).length

/-- The decimal exponent of the leading digit. -/
def Interval.leading (range : Interval) : Int :=
  if range.unit ≤ range.value then (digitCount (range.value / range.unit) : Int) - 1
  else -(digitCount ((range.unit + range.value - 1) / range.value - 1) : Int)

def Interval.contains (range : Interval) (point : Nat) (unit : Nat) : Bool :=
  if range.closed then range.low * unit ≤ point && point ≤ range.high * unit
  else range.low * unit < point && point < range.high * unit

/-- The multiples of `10 ^ exponent` on both sides of the value: the nearer one that the
interval holds, and the even one of two that are equally near. -/
def Interval.onGrid? (range : Interval) (exponent : Int) : Option Decimal :=
  let step := if 0 ≤ exponent then Nat.pow 10 exponent.toNat else 1
  let finer := if 0 ≤ exponent then 1 else Nat.pow 10 (-exponent).toNat
  let down := range.value * finer / (range.unit * step)
  let up := down + 1
  let downHit := range.contains (down * step * range.unit) finer
  let upHit := range.contains (up * step * range.unit) finer
  let downGap := range.value * finer - down * step * range.unit
  let upGap := up * step * range.unit - range.value * finer
  if downHit && upHit then
    if downGap < upGap then some ⟨down, exponent⟩
    else if upGap < downGap then some ⟨up, exponent⟩
    else some ⟨if down % 2 = 0 then down else up, exponent⟩
  else if downHit then some ⟨down, exponent⟩
  else if upHit then some ⟨up, exponent⟩
  else none

/-- Tries ever finer grids; seventeen digits always suffice. -/
def Interval.shortestFrom (range : Interval) : Nat → Int → Decimal
  | 0, exponent => ⟨range.value / range.unit, exponent⟩
  | tries + 1, exponent =>
      match range.onGrid? exponent with
      | some decimal => decimal
      | none => range.shortestFrom tries (exponent - 1)

def shortest (significand : Nat) (exponent : Int) : Decimal :=
  let range := interval significand exponent
  range.shortestFrom 18 range.leading

/-- The digits without the zeros at the end, and the exponent that makes up for them. -/
def Decimal.trimmed (decimal : Decimal) : List Char × Int :=
  let digits := Nat.toDigits 10 decimal.digits
  let kept := Text.trimEndChars (· == '0') digits
  (kept, decimal.exponent + (digits.length - kept.length : Nat))

/-- An exponent has a sign and at least two digits. -/
def exponentText (exponent : Int) : String :=
  let digits := toString exponent.natAbs
  (if exponent < 0 then "-" else "+") ++ (if digits.length < 2 then "0" ++ digits else digits)

/-- Positional from four places after the point to sixteen before it, with at least one digit
on each side; scientific elsewhere. -/
def Decimal.text (decimal : Decimal) : String :=
  let (digits, exponent) := decimal.trimmed
  let point : Int := digits.length + exponent
  let whole := String.ofList digits
  if point < -3 || 16 < point then
    let fraction := match digits.drop 1 with
      | [] => ""
      | rest => "." ++ String.ofList rest
    String.ofList (digits.take 1) ++ fraction ++ "e" ++ exponentText (point - 1)
  else if point ≤ 0 then "0." ++ Text.repeated (-point).toNat '0' ++ whole
  else if digits.length ≤ point then
    whole ++ Text.repeated (point.toNat - digits.length) '0' ++ ".0"
  else String.ofList (digits.take point.toNat) ++ "." ++ String.ofList (digits.drop point.toNat)

def text : Binary64 → String
  | .nan => "nan"
  | .infinite negative => if negative then "-inf" else "inf"
  | .finite negative significand exponent =>
      (if negative then "-" else "")
        ++ (if significand = 0 then "0.0" else (shortest significand exponent).text)

example : (ofDecimal false 1 (-1)).text = "0.1" := by decide +kernel
example : (ofDecimal true 15 0).text = "-15.0" := by decide +kernel

end ShellMenu.Binary64
