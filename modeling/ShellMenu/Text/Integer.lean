import ShellMenu.Text.Blank
import ShellMenu.Text.Digit

/-
  Integers as they are typed: white space around the numeral, a sign, and single underscores
  between digits are fine. So many digits that no integer is read from them are not.
-/

namespace ShellMenu.Text

/-- The record separators are white space elsewhere, and not around a numeral. -/
def isNumeralBlank (c : Char) : Bool :=
  isBlank c && !(28 ≤ c.toNat && c.toNat ≤ 31)

/-- Reads on after a digit. -/
def digitsFrom? : Nat → List Char → Option Nat
  | value, [] => some value
  | value, '_' :: c :: rest => (digitValue? c).bind fun digit => digitsFrom? (10 * value + digit) rest
  | value, c :: rest => (digitValue? c).bind fun digit => digitsFrom? (10 * value + digit) rest

/-- Leading zeros count as digits, underscores do not. -/
def natural? : List Char → Option Nat
  | [] => none
  | c :: rest =>
      if mostDigits < (c :: rest).countP (· ≠ '_') then none
      else (digitValue? c).bind fun digit => digitsFrom? digit rest

def integer? (text : String) : Option Int :=
  match trimEndChars isNumeralBlank (text.toList.dropWhile isNumeralBlank) with
  | '-' :: rest => (natural? rest).map fun n => -(n : Int)
  | '+' :: rest => (natural? rest).map Int.ofNat
  | chars => (natural? chars).map Int.ofNat

example : integer? " +1_0 " = some 10 := by decide +kernel
example : integer? "1.0" = none := by decide +kernel

end ShellMenu.Text
