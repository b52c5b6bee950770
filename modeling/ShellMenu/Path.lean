import ShellMenu.Text.Basic

/-
  Paths as their components. Empty components and single dots say nothing and are dropped; a
  double dot stays until the path is resolved.
-/

namespace ShellMenu

structure Path where
  absolute : Bool
  parts : List String
deriving DecidableEq, Repr

namespace Path

def ofText (text : String) : Path :=
  { absolute := Text.startsWith text "/"
    parts := (Text.splitAt '/' text).filter fun part => !Text.isEmpty part && part.toList ≠ ['.'] }

def text (path : Path) : String :=
  let joined := "/".intercalate path.parts
  if path.absolute then "/" ++ joined
  else if path.parts.isEmpty then "." else joined

def join (path other : Path) : Path :=
  if other.absolute then other else { path with parts := path.parts ++ other.parts }

def child (path : Path) (name : String) : Path :=
  path.join (ofText name)

def parent (path : Path) : Path :=
  { path with parts := path.parts.dropLast }

def name (path : Path) : String :=
  path.parts.getLast?.getD ""

/-- From the last dot on, when that dot neither starts nor ends the name. -/
def suffix (path : Path) : String :=
  let chars := path.name.toList
  let tail := (chars.reverse.takeWhile (· ≠ '.')).reverse
  if tail.isEmpty || chars.length ≤ tail.length + 1 then ""
  else "." ++ String.ofList tail

/-- No file can have the character zero in its name. -/
def hasNul (path : Path) : Bool :=
  path.parts.any fun part => Text.hasChar part '\x00'

/-- A double dot drops the component before it. -/
def climb (parts : List String) : List String :=
  (parts.foldl (fun kept part => if part.toList = ['.', '.'] then kept.drop 1 else part :: kept) []).reverse

/-- The absolute path without double dots, seen from `base`. -/
def resolve (base path : Path) : Path :=
  { absolute := true, parts := climb (base.join path).parts }

def below? (path root : Path) : Option Path :=
  (root.parts.isPrefixOf? path.parts).map fun rest => ⟨false, rest⟩

example : (ofText "./n//m").text = "n/m" := by decide +kernel
example : (ofText "a/b.tar.gz").suffix = ".gz" := by decide +kernel
example : (ofText ".bashrc").suffix = "" := by decide +kernel

end Path

end ShellMenu
