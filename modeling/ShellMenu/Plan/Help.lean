import ShellMenu.Placeholder
import ShellMenu.Plan.Table
import ShellMenu.Text.Lines

/-
  Help texts: one line for each command that a reader at an access level gets to see.
-/

namespace ShellMenu.Help

def columnGap : Nat := 4

def term (command : Command) : String :=
  let names := "|".intercalate command.names
  if command.args.isEmpty then names
  else names ++ " " ++ " ".intercalate (command.args.map Arg.placeholder)

def line (width : Nat) (command : Command) : String :=
  Text.padRight width (term command) ++ Placeholder.braced "GREY" ++ command.description
    ++ Placeholder.braced "RESET"

/-- The descriptions start in one column. -/
def render (heading : String) (commands : List Command) : String :=
  let width := (commands.map fun command => (term command).length).foldl max 0 + columnGap
  Text.terminated ([heading, ""] ++ commands.map (line width))

/-- Only texts can be put side by side in a term. -/
def check (commands : List Command) : Result Unit :=
  if commands.all Command.namesAreText then .ok () else breaking .notAPiece

/-- The level zero lists the commands that are open to all, a positive one exactly its own. -/
def atLevel (level : Int) (access : Option Json) : Bool :=
  if level = 0 then access.isNone
  else if 0 < level then access.bind Json.integer? = some level
  else true

/-- The file of the script, if there is one, has to be among `files`. -/
def hasScript (files : List String) (extension : String) (script : Option Json) : Bool :=
  match script with
  | none => true
  | some name => files.contains s!"{name.display}.{extension}"

def lists (files : List String) (extension : String) (level : Int) (command : Command) : Bool :=
  !command.isCatchAll && !command.isHidden && hasScript files extension command.script
    && atLevel level command.access

def listed (table : List Command) (files : List String) (extension : String) (level : Int) :
    List Command :=
  table.filter (lists files extension level)

end ShellMenu.Help
