import ShellMenu.CommandLine.Watched
import ShellMenu.Timestamp
import Std.Time.DateTime.Timestamp

/-
  The program: fetches the files that a run looks at, runs on them, and puts back what changed.
-/

namespace ShellMenu.CommandLine

def placeText (place : List String) : String :=
  "/" ++ "/".intercalate place

def fetch (place : List String) : IO (Option Entry) := do
  try
    let bytes ← IO.FS.readBinFile (placeText place)
    match String.fromUTF8? bytes with
    | some text => return some (.text text)
    | none => return some (.binary bytes.toList)
  catch
    | .inappropriateType .. => return some .directory
    | _ => return none

/-- From the root down, as far as there are directories. -/
def fetchPath (tree : FileTree) (path : Path) : IO FileTree := do
  let mut tree := tree
  for count in List.range path.parts.length do
    let place := path.parts.take (count + 1)
    if tree.get? place.dropLast = some .directory && (tree.get? place).isNone then
      if let some entry ← fetch place then
        tree := tree.set place entry
  return tree

def fetchAll (tree : FileTree) (paths : List Path) : IO FileTree :=
  paths.foldlM fetchPath tree

def putBack (place : List String) : Entry → IO Unit
  | .directory => IO.FS.createDirAll (placeText place)
  | .text content => IO.FS.writeBinFile (placeText place) content.toUTF8
  | .binary bytes => IO.FS.writeBinFile (placeText place) ⟨bytes.toArray⟩

def snapshot (world : World) (words : List String) : IO FileTree := do
  let tree ← fetchAll {} [world.directory]
  match Invocation.parse words with
  | .error _ => return tree
  | .ok invocation =>
      let tree ← fetchAll tree (watched world tree invocation)
      fetchAll tree (watched world tree invocation)

def execute (words : List String) : IO UInt32 := do
  let seconds := (← Std.Time.Timestamp.now).toSecondsSinceUnixEpoch.val
  let world : World := {
    directory := Path.ofText (toString (← IO.currentDir))
    timestamp := Timestamp.ofSeconds seconds
    renderer := Banner.noFonts }
  let before ← snapshot world words
  let (ending, after) := run world words before
  for (place, entry) in changes before after do
    putBack place entry
  match ending with
  | .exit status output errors =>
      IO.print output
      IO.eprint errors
      return UInt32.ofNat status
  | .breakdown breakdown =>
      IO.eprintln s!"breakdown: {repr breakdown}"
      return 1

end ShellMenu.CommandLine

def main (words : List String) : IO UInt32 :=
  ShellMenu.CommandLine.execute words
