namespace ShellMenu.Text

/-- The code points `first, first + step, …, last`, each of which moves by `shift`. -/
structure Run where
  first : Nat
  last : Nat
  step : Nat
  shift : Int
deriving DecidableEq

def Run.covers (run : Run) (n : Nat) : Bool :=
  run.first ≤ n && n ≤ run.last && (n - run.first) % run.step == 0

def shifted? (table : List Run) (n : Nat) : Option Nat :=
  (table.find? (·.covers n)).map fun run => ((n : Int) + run.shift).toNat

/-- Membership in a list of closed ranges. -/
def inRanges (ranges : List (Nat × Nat)) (n : Nat) : Bool :=
  ranges.any fun range => range.1 ≤ n && n ≤ range.2

end ShellMenu.Text
