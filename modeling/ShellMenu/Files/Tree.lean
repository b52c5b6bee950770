import ShellMenu.Error

/-
  A tree of files and directories, and the operations of a file system on it. A place in the tree
  is the list of names from the root down. There are no links, so that two places are never one
  file, and no permissions: what is there can be read and written.
-/

namespace ShellMenu

inductive Entry where
  | directory
  | text (content : String)
  | binary (bytes : List UInt8)
deriving DecidableEq

structure FileTree where
  entries : List (List String × Entry) := []

namespace FileTree

/-- The root is always there. -/
def get? (tree : FileTree) (place : List String) : Option Entry :=
  if place.isEmpty then some .directory else tree.entries.lookup place

def setEntry (place : List String) (entry : Entry) :
    List (List String × Entry) → List (List String × Entry)
  | [] => [(place, entry)]
  | (other, old) :: rest =>
      if other = place then (other, entry) :: rest else (other, old) :: setEntry place entry rest

def set (tree : FileTree) (place : List String) (entry : Entry) : FileTree :=
  ⟨setEntry place entry tree.entries⟩

/-- Removes a place with everything below it. -/
def erase (tree : FileTree) (place : List String) : FileTree :=
  ⟨tree.entries.filter fun entry => !place.isPrefixOf entry.1⟩

/-! ## Looking -/

/-- In bytes. -/
def longestName : Nat := 255

/-- In bytes. -/
def longestPath : Nat := 4095

/-- Goes down name by name; every name but the last has to be a directory that exists. -/
def walk (tree : FileTree) : List String → List String → Except FileProblem (List String)
  | place, [] => .ok place
  | place, part :: rest =>
      match tree.get? place with
      | none => .error .missing
      | some .directory =>
          if longestName < part.utf8ByteSize then .error .nameTooLong
          else walk tree (if part = ".." then place.dropLast else place ++ [part]) rest
      | some _ => .error .notDirectory

/-- The place that a path leads to, seen from the directory `base`. -/
def locate (tree : FileTree) (base path : Path) : Except FileProblem (List String) :=
  if longestPath < path.text.utf8ByteSize then .error .nameTooLong
  else if path.absolute then tree.walk [] path.parts else tree.walk base.parts path.parts

def entry (tree : FileTree) (base path : Path) : Except FileProblem Entry := do
  let place ← tree.locate base path
  match tree.get? place with
  | some entry => .ok entry
  | none => .error .missing

/-- What a path leads to. A name that is too long gets no answer, and one that no file can have
leads nowhere. -/
def look (tree : FileTree) (base path : Path) : Result (Option Entry) :=
  if path.hasNul then .ok none
  else
    match tree.entry base path with
    | .ok entry => .ok (some entry)
    | .error .nameTooLong => breaking (.refused path.text .nameTooLong)
    | .error _ => .ok none

def isThere (tree : FileTree) (base path : Path) : Result Bool := do
  return (← tree.look base path).isSome

def isDirectory (tree : FileTree) (base path : Path) : Result Bool := do
  return (← tree.look base path) = some .directory

def isFile (tree : FileTree) (base path : Path) : Result Bool := do
  match ← tree.look base path with
  | none | some .directory => return false
  | some _ => return true

/-- `told` makes a fault of the reason why there is nothing to read. -/
def readText (tree : FileTree) (base path : Path) (told : FileProblem → Fault) : Result String :=
  if path.hasNul then breaking .nulInPath
  else
    match tree.entry base path with
    | .ok (.text content) => .ok content
    | .ok (.binary _) => breaking (.notUtf8 path.text)
    | .ok .directory => failing (told .isDirectory)
    | .error problem => failing (told problem)

/-! ## Changing -/

/-- The directory that the path names is new, and the one above it exists. -/
def makeDirectory (tree : FileTree) (base path : Path) : Except FileProblem FileTree := do
  let place ← tree.locate base path
  if path.parts.isEmpty || path.name = ".." then .error .alreadyExists
  else
    match tree.get? place with
    | some _ => .error .alreadyExists
    | none => .ok (tree.set place .directory)

/-- A directory that is there already will do. -/
def ensureDirectory (tree : FileTree) (base path : Path) : Except FileProblem FileTree :=
  match tree.makeDirectory base path, tree.entry base path with
  | .ok tree, _ => .ok tree
  | .error _, .ok .directory => .ok tree
  | .error problem, _ => .error problem

/-- Makes the missing directories above first; `parts` are the names of the path, last first. What
was made stays when a later step fails. -/
def makeDirectories (base : Path) (absolute : Bool) :
    List String → FileTree → Option FileProblem × FileTree
  | parts, tree =>
      let path : Path := ⟨absolute, parts.reverse⟩
      match tree.ensureDirectory base path, parts with
      | .ok tree, _ => (none, tree)
      | .error .missing, _ :: above =>
          match makeDirectories base absolute above tree with
          | (some problem, tree) => (some problem, tree)
          | (none, tree) =>
              match tree.ensureDirectory base path with
              | .ok tree => (none, tree)
              | .error problem => (some problem, tree)
      | .error problem, _ => (some problem, tree)

def writeFile (tree : FileTree) (base path : Path) (content : String) :
    Except FileProblem FileTree := do
  let place ← tree.locate base path
  match tree.get? place with
  | some .directory => .error .isDirectory
  | _ => .ok (tree.set place (.text content))

/-- Makes a directory, with those above it. -/
def ensurePath (tree : FileTree) (base path : Path) : Result Unit × FileTree :=
  if path.hasNul then (breaking .nulInPath, tree)
  else
    match makeDirectories base path.absolute path.parts.reverse tree with
    | (some problem, tree) => (breaking (.refused path.text problem), tree)
    | (none, tree) => (.ok (), tree)

/-- Makes the directories above a file. -/
def makeRoom (tree : FileTree) (base path : Path) : Result Unit × FileTree :=
  tree.ensurePath base path.parent

def put (tree : FileTree) (base path : Path) (content : String) : Result FileTree :=
  if path.hasNul then breaking .nulInPath
  else
    match tree.writeFile base path content with
    | .ok tree => .ok tree
    | .error problem => breaking (.refused path.text problem)

/-- Writes a file, with the directories above it. The content is asked for when they are there. -/
def write (tree : FileTree) (base path : Path) (content : Result String) :
    Result Unit × FileTree :=
  match tree.makeRoom base path with
  | (.error error, tree) => (.error error, tree)
  | (.ok (), tree) =>
      match content.bind (tree.put base path) with
      | .ok tree => (.ok (), tree)
      | .error error => (.error error, tree)

/-- Removes a file, or a directory with everything below it. -/
def remove (tree : FileTree) (base path : Path) : Result FileTree :=
  if path.hasNul then breaking .nulInPath
  else
    match tree.entry base path, tree.locate base path with
    | .ok _, .ok place => .ok (tree.erase place)
    | .error problem, _ | _, .error problem => breaking (.refused path.text problem)

/-! ## Listing -/

/-- Every path below a place, directories with a slash at the end. -/
def listing (tree : FileTree) (place : List String) : List String :=
  Text.sortTexts <| tree.entries.filterMap fun (other, entry) =>
    match place.isPrefixOf? other with
    | none | some [] => none
    | some rest =>
        let path := "/".intercalate rest
        some (if entry = .directory then path ++ "/" else path)

end FileTree

end ShellMenu
