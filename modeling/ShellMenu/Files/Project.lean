import ShellMenu.Artifact
import ShellMenu.Files.Tree
import ShellMenu.Schema.Description
import ShellMenu.Spec.Reader

/-
  A project directory: the description in `cli.json` and the script fragments under `funcs`.
-/

namespace ShellMenu

namespace FileTree

/-- Line ends of all kinds count as line feeds. -/
def readJson (tree : FileTree) (base path : Path) : Result Json := do
  let text ← tree.readText base path (.unreadableJson path.text)
  match Json.read (Text.unifyNewlines text) with
  | .ok value => return value
  | .error (.malformed error) =>
      failing (.invalidSyntax path.text error.fault.message (.ofText error.position))
  | .error .longNumeral => breaking .longNumeral

/-- The levels of nesting that are left to a program that is not called from deep inside another
one. Each level takes a place on the stack of calls, and the callers have taken theirs before. -/
def usualRoom : Nat := 900

/-- Reads a value for which there is room for so many levels. -/
def loadJson (tree : FileTree) (room : Nat) (base path : Path) : Result Json := do
  let value ← tree.readJson base path
  if room < value.depth then breaking .tooDeep else return value

/-- Only what can be read again is written: integers that are not too long, and no more levels
than there is room for. -/
def jsonText (room : Nat) (value : Json) : Result String :=
  if room < value.depth then breaking .tooDeep
  else if value.hasShortIntegers then .ok value.fileText else breaking .longNumeral

def writeJson (tree : FileTree) (room : Nat) (base path : Path) (value : Json) :
    Result Unit × FileTree :=
  tree.write base path (jsonText room value)

def readThere (tree : FileTree) (base path : Path) : Result String := do
  if ← tree.isThere base path then tree.readText base path (.unreadableFile path.text)
  else failing (.notFound path.text)

/-- A description that the schema has no complaint about. One that is nested too deep to be read is
none of these. -/
def readDescription (tree : FileTree) (base path : Path) : Result Json := do
  if !(← tree.isThere base path.parent) then failing (.notFound path.parent.text)
  if !(← tree.isThere base path) then failing (.notFound path.text)
  let document ← tree.readJson base path
  match Schema.description.violations document with
  | [] => return document
  | problems => failing (.invalidSchema path.text problems)

def descriptionFile : String := "cli.json"

def readSpec (tree : FileTree) (base directory : Path) : Result Spec := do
  let path := directory.child descriptionFile
  Spec.ofJson (← tree.readDescription base path) path.text

/-- The names of the scripts that the commands of a spec run. -/
def scriptNames (spec : Spec) : List String :=
  (spec.menus.flatMap fun menu => menu.commands.filterMap fun command =>
    command.script.map Json.display).eraseDups

def fragmentPath (directory : Path) (dialect : Dialect) (name : String) : Path :=
  (directory.child "funcs").child (Fragments.fileName dialect.extension name)

/-- A script without a file of the dialect has no fragment, which is no fault. -/
def readFragment (tree : FileTree) (base directory : Path) (dialect : Dialect) (name : String) :
    Result (Option (String × String)) := do
  let path := fragmentPath directory dialect name
  if ← tree.isFile base path then return some (name, ← tree.readThere base path)
  else return none

def readFragments (tree : FileTree) (base directory : Path) (spec : Spec) (dialect : Dialect) :
    Result Fragments := do
  let entries ← (scriptNames spec).mapM (tree.readFragment base directory dialect)
  return { extension := dialect.extension, entries := entries.filterMap id }

def readContext (tree : FileTree) (base directory : Path) : Result Context := do
  if !(← tree.isDirectory base directory) then failing (.notFound directory.text)
  let spec ← tree.readSpec base directory
  let bash ← tree.readFragments base directory spec .bash
  let batch ← tree.readFragments base directory spec .batch
  return { spec, bash, batch }

end FileTree

/-- The path below `root`, or the whole path when it lies elsewhere. -/
def relativeText (base path root : Path) : String :=
  if path.hasNul || root.hasNul then path.text
  else
    match (base.resolve path).below? (base.resolve root) with
    | some rest => rest.text
    | none => path.text

end ShellMenu
