import ShellMenu.CommandLine.Grammar
import ShellMenu.Dialect

/-
  What the program is asked to do.
-/

namespace ShellMenu.CommandLine

structure BuildOptions where
  directory : String := "."
  outDirectory : Option String := none
  check : Bool := false
  dryRun : Bool := false
  printDiff : Bool := false
  reportJson : Option String := none
deriving DecidableEq, Repr

structure ListOptions where
  directory : String := "."
  menu : Option String := none
  dialect : String := "bash"
  level : Int := 0
deriving DecidableEq, Repr

inductive Invocation where
  | build (options : BuildOptions)
  | validate (directory : String)
  | list (options : ListOptions)
  | schema
  | hashKey (key : String)
deriving DecidableEq, Repr

/-! ## Grammars -/

def directorySwitch : Switch := ⟨["--directory"], .text⟩

def topUsage : String := "usage: shellforge [-h] \x7bbuild,validate,list-commands,schema,hash-key\x7d ..."

def top : Grammar where
  program := "shellforge"
  usage := topUsage
  switches := [helpSwitch]
  operand := some "command"

def buildGrammar : Grammar where
  program := "shellforge build"
  usage := "usage: shellforge build [-h] [--directory DIRECTORY] [--out-dir OUT_DIR]\n"
    ++ "                        [--check] [--dry-run] [--print-diff]\n"
    ++ "                        [--report-json REPORT_JSON]"
  switches := [helpSwitch, directorySwitch, ⟨["--out-dir"], .text⟩, ⟨["--check"], .nothing⟩,
    ⟨["--dry-run"], .nothing⟩, ⟨["--print-diff"], .nothing⟩, ⟨["--report-json"], .text⟩]

def validateGrammar : Grammar where
  program := "shellforge validate"
  usage := "usage: shellforge validate [-h] [--directory DIRECTORY]"
  switches := [helpSwitch, directorySwitch]

def listGrammar : Grammar where
  program := "shellforge list-commands"
  usage := "usage: shellforge list-commands [-h] [--directory DIRECTORY] [--menu MENU]\n"
    ++ "                                [--backend \x7bbash,batch\x7d]\n"
    ++ "                                [--auth-level AUTH_LEVEL]"
  switches := [helpSwitch, directorySwitch, ⟨["--menu"], .text⟩,
    ⟨["--backend"], .oneOf (Dialect.all.map Dialect.name)⟩, ⟨["--auth-level"], .integer⟩]

def schemaGrammar : Grammar where
  program := "shellforge schema"
  usage := "usage: shellforge schema [-h]"
  switches := [helpSwitch]

def hashKeyGrammar : Grammar where
  program := "shellforge hash-key"
  usage := "usage: shellforge hash-key [-h] key"
  switches := [helpSwitch]
  operand := some "key"

inductive Subcommand where
  | build
  | validate
  | list
  | schema
  | hashKey
deriving DecidableEq, Repr

namespace Subcommand

def all : List Subcommand := [.build, .validate, .list, .schema, .hashKey]

def name : Subcommand → String
  | .build => "build"
  | .validate => "validate"
  | .list => "list-commands"
  | .schema => "schema"
  | .hashKey => "hash-key"

def grammar : Subcommand → Grammar
  | .build => buildGrammar
  | .validate => validateGrammar
  | .list => listGrammar
  | .schema => schemaGrammar
  | .hashKey => hashKeyGrammar

/-- The dialect to list for. One that was given without a value goes by an empty list. -/
def dialectName (found : Found) : String :=
  if found.has "--backend" then (found.value? "--backend").getD "[]" else "bash"

/-- From what a grammar found; the values have been checked there. -/
def invocation (subcommand : Subcommand) (found : Found) : Invocation :=
  let directory := (found.value? "--directory").getD "."
  match subcommand with
  | .build => .build {
      directory
      outDirectory := found.value? "--out-dir"
      check := found.has "--check"
      dryRun := found.has "--dry-run"
      printDiff := found.has "--print-diff"
      reportJson := found.value? "--report-json" }
  | .validate => .validate directory
  | .list => .list {
      directory
      menu := found.value? "--menu"
      dialect := dialectName found
      level := ((found.value? "--auth-level").bind Text.integer?).getD 0 }
  | .schema => .schema
  | .hashKey => .hashKey (found.operand.getD "")

end Subcommand

/-- The first word that is no option names the subcommand and leaves it all the words after
it. -/
def splitCommand : List String → List Word → Except Refusal (List String × List String)
  | extras, [] => .ok (extras, [])
  | extras, ⟨raw, .unknown⟩ :: rest => splitCommand (extras ++ [raw]) rest
  | extras, ⟨_, .known switch attached⟩ :: rest => do
      let _ ← top.raise {} switch attached
      splitCommand extras rest
  | extras, [⟨raw, .dashes⟩] => .ok (extras ++ [raw], [])
  | extras, ⟨raw, _⟩ :: rest => .ok (extras, raw :: rest.map Word.raw)

def Invocation.parse (words : List String) : Except Refusal Invocation := do
  let (extras, words) ← splitCommand [] (← top.readAll words)
  match words with
  | [] => top.refuse "the following arguments are required: command"
  | name :: rest =>
      match Subcommand.all.find? (·.name = name) with
      | none =>
          let choices := ", ".intercalate (Subcommand.all.map fun entry => Text.quoted entry.name)
          top.refuse s!"argument command: invalid choice: {Text.quoted name} (choose from {choices})"
      | some subcommand => do
          let found ← subcommand.grammar.parse rest
          match extras ++ found.extras with
          | [] => return subcommand.invocation found
          | unwanted =>
              let shown := " ".intercalate unwanted
              top.refuse s!"unrecognized arguments: {shown}"

end ShellMenu.CommandLine
