import ShellMenu.Text.Basic

/-
  Points in time as text, to the second and in universal time.
-/

namespace ShellMenu.Timestamp

structure Date where
  year : Int
  month : Nat
  day : Nat
deriving DecidableEq, Repr

/-- The date so many days after the first of January 1970. Years are taken to start in March, so
that a leap day comes last. -/
def Date.ofDays (days : Int) : Date :=
  let shifted := days + 719468
  let era := shifted / 146097
  let dayOfEra := shifted % 146097
  let yearOfEra := (dayOfEra - dayOfEra / 1460 + dayOfEra / 36524 - dayOfEra / 146096) / 365
  let dayOfYear := (dayOfEra - (365 * yearOfEra + yearOfEra / 4 - yearOfEra / 100)).toNat
  let month := (5 * dayOfYear + 2) / 153
  let year := yearOfEra + 400 * era
  { year := if month < 10 then year else year + 1
    month := if month < 10 then month + 3 else month - 9
    day := dayOfYear - (153 * month + 2) / 5 + 1 }

def twoDigits (n : Nat) : String :=
  (if n < 10 then "0" else "") ++ toString n

/-- Seconds since the start of 1970. -/
def ofSeconds (seconds : Int) : String :=
  let date := Date.ofDays (seconds / 86400)
  let time := (seconds % 86400).toNat
  s!"{date.year}-{twoDigits date.month}-{twoDigits date.day}T{twoDigits (time / 3600)}:"
    ++ s!"{twoDigits (time / 60 % 60)}:{twoDigits (time % 60)}Z"

example : ofSeconds 1704164645 = "2024-01-02T03:04:05Z" := by decide +kernel
example : Date.ofDays 19782 = ⟨2024, 2, 29⟩ := by decide +kernel

end ShellMenu.Timestamp
