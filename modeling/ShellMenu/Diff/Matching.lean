/-
  Which lines of two texts correspond: the longest run of equal lines, then the same on both
  sides of it. A line that is all over a long text does not start a run.
-/

namespace ShellMenu.Diff

/-- `size` lines that are equal from `old` and from `new` on. -/
structure Match where
  old : Nat
  new : Nat
  size : Nat
deriving DecidableEq, Repr

/-- The part of both texts that is looked at; the upper ends lie outside. -/
structure Window where
  oldLow : Nat
  oldHigh : Nat
  newLow : Nat
  newHigh : Nat
deriving DecidableEq, Repr

/-- More than one line in a hundred, in a text of two hundred lines or more. -/
def isPopular (lines : List String) (line : String) : Bool :=
  200 ≤ lines.length && lines.length / 100 + 1 < lines.count line

def placesOf (lines : List String) (line : String) : List Nat :=
  (lines.zipIdx.filter fun entry => entry.1 == line).map Prod.snd

/-- Two texts, and for each line of the old one the places in the new one where a run may go
on. -/
structure Pair where
  old : Array String
  new : Array String
  places : Array (List Nat)

def Pair.ofLists (old new : List String) : Pair :=
  { old := old.toArray
    new := new.toArray
    places := (old.map fun line => if isPopular new line then [] else placesOf new line).toArray }

/-- The lengths of the runs that end at a place of the new text and at the old line before. -/
abbrev Runs := List (Nat × Nat)

def Runs.before (runs : Runs) : Nat → Nat
  | 0 => 0
  | place + 1 => (runs.lookup place).getD 0

def Runs.next (runs : Runs) (window : Window) (places : List Nat) : Runs :=
  (places.filter fun place => window.newLow ≤ place && place < window.newHigh).map fun place =>
    (place, runs.before place + 1)

/-- The first of the longest runs wins. -/
def better (line : Nat) (best : Match) (run : Nat × Nat) : Match :=
  if best.size < run.2 then ⟨line + 1 - run.2, run.1 + 1 - run.2, run.2⟩ else best

def Pair.scanLine (pair : Pair) (window : Window) (state : Runs × Match) (line : Nat) :
    Runs × Match :=
  let runs := state.1.next window (pair.places[line]?.getD [])
  (runs, runs.foldl (better line) state.2)

/-- The longest run of the window, by the places alone. -/
def Pair.longestRun (pair : Pair) (window : Window) : Match :=
  ((List.range' window.oldLow (window.oldHigh - window.oldLow)).foldl (pair.scanLine window)
    ([], ⟨window.oldLow, window.newLow, 0⟩)).2

def Pair.same (pair : Pair) (old new : Nat) : Bool :=
  match pair.old[old]?, pair.new[new]? with
  | some left, some right => left == right
  | _, _ => false

def Pair.extendBack (pair : Pair) (window : Window) : Nat → Nat → Nat → Match
  | old + 1, new + 1, size =>
      if window.oldLow < old + 1 && window.newLow < new + 1 && pair.same old new then
        pair.extendBack window old new (size + 1)
      else ⟨old + 1, new + 1, size⟩
  | old, new, size => ⟨old, new, size⟩

/-- How many of the next `limit` lines are equal. -/
def Pair.equalAhead (pair : Pair) : Nat → Nat → Nat → Nat
  | 0, _, _ => 0
  | limit + 1, old, new =>
      if pair.same old new then pair.equalAhead limit (old + 1) (new + 1) + 1 else 0

/-- A run takes in the equal lines around it, popular ones as well. -/
def Pair.longest (pair : Pair) (window : Window) : Match :=
  let run := pair.longestRun window
  let run := pair.extendBack window run.old run.new run.size
  let limit := min (window.oldHigh - (run.old + run.size)) (window.newHigh - (run.new + run.size))
  { run with size := run.size + pair.equalAhead limit (run.old + run.size) (run.new + run.size) }

/-- Each match makes the windows on its two sides smaller than the window it was found in. -/
def Pair.matchesIn (pair : Pair) : Nat → Window → List Match
  | 0, _ => []
  | fuel + 1, window =>
      let found := pair.longest window
      if found.size = 0 then []
      else
        pair.matchesIn fuel { window with oldHigh := found.old, newHigh := found.new }
          ++ found
          :: pair.matchesIn fuel
              { window with oldLow := found.old + found.size, newLow := found.new + found.size }

/-- Matches that touch in both texts become one. -/
def mergeTouching : Match → List Match → List Match
  | current, [] => if current.size = 0 then [] else [current]
  | current, next :: rest =>
      if current.old + current.size = next.old && current.new + current.size = next.new then
        mergeTouching { current with size := current.size + next.size } rest
      else if current.size = 0 then mergeTouching next rest
      else current :: mergeTouching next rest

def matching (old new : List String) : List Match :=
  let pair := Pair.ofLists old new
  mergeTouching ⟨0, 0, 0⟩
    (pair.matchesIn (old.length + 1) ⟨0, old.length, 0, new.length⟩)

example : matching ["a", "b", "c"] ["b", "c", "d"] = [⟨1, 0, 2⟩] := by decide +kernel

end ShellMenu.Diff
