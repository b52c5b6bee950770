import ShellMenu.Diff.Matching
import ShellMenu.Text.Lines

/-
  Differences in the unified format: hunks of changed lines with three lines of context.
-/

namespace ShellMenu.Diff

/-- One stretch of the two texts, equal or not. -/
structure Edit where
  same : Bool
  oldLow : Nat
  oldHigh : Nat
  newLow : Nat
  newHigh : Nat
deriving DecidableEq, Repr

/-- The stretches from a place in both texts on; an empty stretch is left out. -/
def editsFrom (oldEnd newEnd : Nat) : Nat → Nat → List Match → List Edit
  | old, new, [] =>
      if old < oldEnd || new < newEnd then [⟨false, old, oldEnd, new, newEnd⟩] else []
  | old, new, found :: rest =>
      (if old < found.old || new < found.new then [⟨false, old, found.old, new, found.new⟩] else [])
        ++ ⟨true, found.old, found.old + found.size, found.new, found.new + found.size⟩
        :: editsFrom oldEnd newEnd (found.old + found.size) (found.new + found.size) rest

def edits (old new : List String) : List Edit :=
  editsFrom old.length new.length 0 0 (matching old new)

def context : Nat := 3

namespace Edit

/-- Only the last lines of an equal stretch. -/
def tail (edit : Edit) : Edit :=
  { edit with
    oldLow := max edit.oldLow (edit.oldHigh - context)
    newLow := max edit.newLow (edit.newHigh - context) }

/-- Only the first lines of an equal stretch. -/
def head (edit : Edit) : Edit :=
  { edit with
    oldHigh := min edit.oldHigh (edit.oldLow + context)
    newHigh := min edit.newHigh (edit.newLow + context) }

end Edit

def trimFirst : List Edit → List Edit
  | edit :: rest => (if edit.same then edit.tail else edit) :: rest
  | [] => []

def trimLast (edits : List Edit) : List Edit :=
  match edits.getLast? with
  | some edit => edits.dropLast ++ [if edit.same then edit.head else edit]
  | none => []

/-- A long equal stretch ends one group and starts the next; `group` is the one being filled. -/
def groupsFrom : List Edit → List Edit → List (List Edit)
  | group, [] =>
      match group with
      | [] => []
      | [edit] => if edit.same then [] else [group]
      | group => [group]
  | group, edit :: rest =>
      if edit.same && context + context < edit.oldHigh - edit.oldLow then
        (group ++ [edit.head]) :: groupsFrom [edit.tail] rest
      else groupsFrom (group ++ [edit]) rest

def groups (edits : List Edit) : List (List Edit) :=
  groupsFrom [] (trimLast (trimFirst edits))

/-! ## Hunks -/

inductive Mark where
  | kept
  | removed
  | added
deriving DecidableEq, Repr

def Mark.source : Mark → String
  | .kept => " "
  | .removed => "-"
  | .added => "+"

/-- Marked lines that start at a place in the old and in the new text, counted from zero. -/
structure Hunk where
  oldStart : Nat
  oldCount : Nat
  newStart : Nat
  newCount : Nat
  lines : List (Mark × String)
deriving DecidableEq, Repr

def slice (lines : List String) (low high : Nat) : List String :=
  (lines.drop low).take (high - low)

def Edit.marked (old new : List String) (edit : Edit) : List (Mark × String) :=
  if edit.same then (slice old edit.oldLow edit.oldHigh).map (Mark.kept, ·)
  else (slice old edit.oldLow edit.oldHigh).map (Mark.removed, ·)
    ++ (slice new edit.newLow edit.newHigh).map (Mark.added, ·)

def Hunk.ofGroup (old new : List String) (group : List Edit) : Option Hunk :=
  match group.head?, group.getLast? with
  | some first, some last =>
      some { oldStart := first.oldLow
             oldCount := last.oldHigh - first.oldLow
             newStart := first.newLow
             newCount := last.newHigh - first.newLow
             lines := group.flatMap (Edit.marked old new) }
  | _, _ => none

def hunks (old new : List String) : List Hunk :=
  (groups (edits old new)).filterMap (Hunk.ofGroup old new)

/-- Counted from one; a length of one is left out, and an empty range names the line before it. -/
def rangeText (start count : Nat) : String :=
  if count = 1 then toString (start + 1)
  else if count = 0 then s!"{start},0"
  else s!"{start + 1},{count}"

def Hunk.source (hunk : Hunk) : List String :=
  let old := rangeText hunk.oldStart hunk.oldCount
  let new := rangeText hunk.newStart hunk.newCount
  s!"@@ -{old} +{new} @@" :: hunk.lines.map fun (mark, line) => mark.source ++ line

def unifiedLines (old new : List String) (oldLabel newLabel : String) : List String :=
  match hunks old new with
  | [] => []
  | hunks => s!"--- {oldLabel}" :: s!"+++ {newLabel}" :: hunks.flatMap Hunk.source

/-- Empty when the two texts have the same lines. -/
def unified (old new oldLabel newLabel : String) : String :=
  Text.joinLines (unifiedLines (Text.normalizedLines old) (Text.normalizedLines new) oldLabel newLabel)

end ShellMenu.Diff
