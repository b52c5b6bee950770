import ShellMenu.Text.Case.Context
import ShellMenu.Text.Case.Lower
import ShellMenu.Text.Case.Upper

/-
  Full case mapping. One character may have an upper-case form of several, and a capital sigma
  that ends a word has a lower-case form of its own.
-/

namespace ShellMenu.Text

def upperChar (c : Char) : List Char :=
  if c.toNat < 0x80 then [c.toUpper]
  else match upperSequences.lookup c.toNat with
    | some form => form.map Char.ofNat
    | none => [((shifted? upperRuns c.toNat).map Char.ofNat).getD c]

def upper (text : String) : String :=
  String.ofList (text.toList.flatMap upperChar)

def capitalSigma : Char := Char.ofNat 0x3a3

def dottedCapitalI : Char := Char.ofNat 0x130

/-- The nearest character that is no mark is a letter with case. -/
def nextIsCased (chars : List Char) : Bool :=
  match chars.dropWhile (fun c => inRanges caseIgnorableRanges c.toNat) with
  | [] => false
  | c :: _ => inRanges casedRanges c.toNat

def lowerChar (c : Char) : List Char :=
  if c.toNat < 0x80 then [c.toLower]
  else if c = dottedCapitalI then ['i', Char.ofNat 0x307]
  else [((shifted? lowerRuns c.toNat).map Char.ofNat).getD c]

/-- `before` holds the characters to the left, nearest first. -/
def lowerFrom : List Char → List Char → List Char
  | _, [] => []
  | before, c :: rest =>
      if c = capitalSigma then
        (if nextIsCased before && !nextIsCased rest then Char.ofNat 0x3c2 else Char.ofNat 0x3c3)
          :: lowerFrom (c :: before) rest
      else lowerChar c ++ lowerFrom (c :: before) rest

def lower (text : String) : String :=
  String.ofList (lowerFrom [] text.toList)

theorem lowerFrom_of_ascii {chars : List Char} (ascii : ∀ c ∈ chars, c.toNat < 128)
    (before : List Char) : lowerFrom before chars = chars.map Char.toLower := by
  induction chars generalizing before with
  | nil => rfl
  | cons c chars ih =>
      have small := ascii c List.mem_cons_self
      have noSigma : c ≠ capitalSigma := by
        rintro rfl
        exact absurd small (by decide)
      rw [lowerFrom, if_neg noSigma, ih fun d present => ascii d (List.mem_cons_of_mem c present)]
      simp [lowerChar, small]

/-- Only the first character changes. -/
def capitalize (text : String) : String :=
  match text.toList with
  | [] => ""
  | c :: rest => String.ofList (upperChar c ++ rest)

example : lower "BRIGHT_Red" = "bright_red" := by decide +kernel
example : capitalize "ßa" = "SSa" := by decide +kernel

end ShellMenu.Text
