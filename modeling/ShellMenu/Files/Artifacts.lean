import ShellMenu.Artifact
import ShellMenu.Diff.Unified
import ShellMenu.Files.Tree

/-
  Bringing files up to date: a file is only written when its content changes, and a check or a dry
  run says what would be written.
-/

namespace ShellMenu

inductive Status where
  | unchanged
  | drift
  | wouldWrite
  | updated
deriving DecidableEq, Repr

def Status.name : Status → String
  | .unchanged => "unchanged"
  | .drift => "drift"
  | .wouldWrite => "would_write"
  | .updated => "updated"

/-- A check wins over a dry run. -/
structure WriteMode where
  check : Bool := false
  dryRun : Bool := false
deriving DecidableEq, Repr

def WriteMode.pending (mode : WriteMode) : Option Status :=
  if mode.check then some .drift else if mode.dryRun then some .wouldWrite else none

namespace FileTree

/-- A missing file reads as empty. -/
def readIfThere (tree : FileTree) (base path : Path) : Result String := do
  if ← tree.isThere base path then tree.readText base path (.unreadableFile path.text)
  else return ""

def update (tree : FileTree) (base path : Path) (content : String) (mode : WriteMode) :
    Result (Status × String) × FileTree :=
  match tree.readIfThere base path with
  | .error error => (.error error, tree)
  | .ok old =>
      if old = content then (.ok (.unchanged, ""), tree)
      else
        let diff := Diff.unified old content s!"a/{path.text}" s!"b/{path.text}"
        match mode.pending with
        | some status => (.ok (status, diff), tree)
        | none =>
            match tree.write base path (.ok content) with
            | (.ok (), tree) => (.ok (.updated, diff), tree)
            | (.error error, tree) => (.error error, tree)

end FileTree

structure Written where
  artifact : String
  path : String
  status : Status
  diff : String
deriving DecidableEq, Repr

/-- Up to the first artifact that cannot be read or written. -/
def FileTree.updateAll (base directory : Path) (mode : WriteMode) :
    List Artifact → FileTree → Result (List Written) × FileTree
  | [], tree => (.ok [], tree)
  | artifact :: rest, tree =>
      let path := directory.child artifact.path
      match tree.update base path artifact.content mode with
      | (.error error, tree) => (.error error, tree)
      | (.ok (status, diff), tree) =>
          match updateAll base directory mode rest tree with
          | (.error error, tree) => (.error error, tree)
          | (.ok written, tree) => (.ok (⟨artifact.path, path.text, status, diff⟩ :: written), tree)

def hasDrift (written : List Written) : Bool :=
  written.any fun entry => entry.status = .drift || entry.status = .wouldWrite

end ShellMenu
