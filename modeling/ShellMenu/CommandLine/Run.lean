import ShellMenu.CommandLine.Invocation
import ShellMenu.Digest
import ShellMenu.Files.Artifacts
import ShellMenu.Files.Project

/-
  A run of the program on a tree of files: what it prints, what it leaves behind, and how it
  ends.
-/

namespace ShellMenu.CommandLine

/-- Where and when the program runs, and the fonts it has. -/
structure World where
  directory : Path
  timestamp : String
  renderer : Banner.Renderer

/-- What has happened so far. -/
structure Session where
  tree : FileTree
  output : String := ""

/-- What was printed and written stays when a task fails. -/
abbrev Task := ExceptT Error (StateM Session)

def Task.ofResult {α : Type} (result : Result α) : Task α :=
  ExceptT.mk (pure result)

def printLine (line : String) : Task Unit :=
  modify fun session => { session with output := session.output ++ line ++ "\n" }

def printLines (lines : List String) : Task Unit :=
  lines.forM printLine

def readingTree {α : Type} (action : FileTree → Result α) : Task α := do
  Task.ofResult (action (← get).tree)

def changingTree {α : Type} (action : FileTree → Result α × FileTree) : Task α := do
  let session ← get
  let (result, tree) := action session.tree
  set { session with tree }
  Task.ofResult result

/-! ## Commands -/

def given (value : Option String) : Option String :=
  value.filter fun text => !Text.isEmpty text

/-- A path that is resolved cannot have the character zero in it. -/
def checkPath (text : Option String) : Task Unit :=
  Task.ofResult <| match given text with
    | some text => if (Path.ofText text).hasNul then breaking .nulInPath else .ok ()
    | none => .ok ()

def projectDirectory (world : World) (directory : String) : Path :=
  world.directory.resolve (Path.ofText directory)

def outDirectory (world : World) (options : BuildOptions) : Path :=
  match given options.outDirectory with
  | some directory => world.directory.resolve (Path.ofText directory)
  | none => (projectDirectory world options.directory).child "out"

def unsupportedLines (context : Context) (dialect : Dialect) : List String :=
  (context.unsupported dialect).map fun (menu, command) =>
    s!"[{menu}] {command}: not supported for {dialect.platform}"

def statusLines (printDiff : Bool) (written : Written) : List String :=
  s!"[{written.artifact}] {written.status.name}"
    :: (if printDiff && !Text.isEmpty written.diff then [written.diff] else [])

def toolVersion : String := "1.0.0"

def report (world : World) (spec : Spec) (directory out : Path) (written : List Written) : Json :=
  .obj [
    ("generated_at_utc", .str world.timestamp),
    ("tool_version", .str toolVersion),
    ("title", spec.title),
    ("out_dir", .str (relativeText world.directory out directory)),
    ("artifacts", .obj (written.map fun entry => (entry.artifact, .obj [
      ("path", .str (relativeText world.directory (Path.ofText entry.path) directory)),
      ("status", .str entry.status.name)]))),
    ("has_drift", .bool (hasDrift written))]

/-- Nothing is written before everything is built. -/
def build (world : World) (options : BuildOptions) : Task Nat := do
  checkPath (some options.directory)
  checkPath options.outDirectory
  let directory := projectDirectory world options.directory
  let out := outDirectory world options
  let context ← readingTree (·.readContext world.directory directory)
  let artifacts ← Task.ofResult (context.build world.renderer)
  printLines (Dialect.all.flatMap (unsupportedLines context))
  let mode : WriteMode := { check := options.check, dryRun := options.dryRun }
  let written ← changingTree (FileTree.updateAll world.directory out mode artifacts)
  printLines (written.flatMap (statusLines options.printDiff))
  checkPath options.reportJson
  if let some path := given options.reportJson then
    let path := world.directory.resolve (Path.ofText path)
    changingTree (·.writeJson FileTree.usualRoom world.directory path
      (report world context.spec directory out written))
  return if options.check && hasDrift written then 1 else 0

def summaryLine (spec : Spec) : String :=
  let commands := (spec.menus.flatMap Menu.commands).length
  s!"[{spec.title.display}] valid: menus={spec.menus.length} commands={commands} "
    ++ s!"auth_levels={spec.levels.length} main_menu={spec.mainMenu}"

def dialectLines (context : Context) (dialect : Dialect) : List String :=
  let unsupported := context.unsupported dialect
  let fragments := (context.fragments dialect).entries.length
  s!"[{dialect.name}] fragments={fragments} unsupported={unsupported.length}"
    :: unsupported.map fun (menu, command) =>
        s!"  {menu}.{command}: not supported for {dialect.platform}"

def validate (world : World) (directory : String) : Task Nat := do
  checkPath (some directory)
  let directory := projectDirectory world directory
  let context ← readingTree (·.readContext world.directory directory)
  printLine (summaryLine context.spec)
  printLines (Dialect.all.flatMap (dialectLines context))
  return 0

/-- The menus to list: the one that was named, or all of them. -/
def chosenMenus (spec : Spec) (name : Option String) : Result (List Menu) :=
  match given name with
  | none => .ok spec.menus
  | some name =>
      match spec.menu? name with
      | some menu => .ok [menu]
      | none => failing (.unknownMenu name spec.menuNames)

def listLines (context : Context) (dialect : Dialect) (level : Int) (menu : Menu) : List String :=
  let fragments := context.fragments dialect
  let listed := Help.listed (Table.ofMenu menu context.spec.levels) fragments.fileNames
    fragments.extension level
  s!"[{menu.name}] {listed.length} commands"
    :: listed.map fun command => s!"  {Help.term command}: {command.description}"

def list (world : World) (options : ListOptions) : Task Nat := do
  checkPath (some options.directory)
  let directory := projectDirectory world options.directory
  let context ← readingTree (·.readContext world.directory directory)
  let dialect ← Task.ofResult (Dialect.ofName options.dialect)
  if options.level ≠ 0 && !context.spec.levels.contains options.level then
    Task.ofResult (failing (.unknownLevel options.level context.spec.levels))
  let menus ← Task.ofResult (chosenMenus context.spec options.menu)
  printLines (menus.flatMap (listLines context dialect options.level))
  return 0

def perform (world : World) : Invocation → Task Nat
  | .build options => build world options
  | .validate directory => validate world directory
  | .list options => list world options
  | .schema => do
      printLine (Schema.document.indented 0)
      return 0
  | .hashKey key => do
      printLine (← Task.ofResult (Digest.hashKey (key.toList.map Digest.codePoint)))
      return 0

/-! ## Runs -/

/-- How a run ends: with a status and two streams of text, or by breaking down. -/
inductive Ending where
  | exit (status : Nat) (output errors : String)
  | breakdown (breakdown : Breakdown)
deriving DecidableEq, Repr

def Refusal.ending : Refusal → Ending
  | .help usage => .exit 0 (usage ++ "\n") ""
  | .wrong program usage message => .exit 2 "" s!"{usage}\n{program}: error: {message}\n"

def run (world : World) (words : List String) (tree : FileTree) : Ending × FileTree :=
  match Invocation.parse words with
  | .error refusal => (refusal.ending, tree)
  | .ok invocation =>
      match (perform world invocation).run { tree } with
      | (.ok status, session) => (.exit status session.output "", session.tree)
      | (.error (.fault fault), session) =>
          (.exit 2 session.output s!"shellforge error: {fault.message}\n", session.tree)
      | (.error (.breakdown breakdown), session) => (.breakdown breakdown, session.tree)

end ShellMenu.CommandLine
