import ShellMenu.Spec.Basic

/-
  The commands of a menu: those it declares and the built-in ones, which take the place of a
  declared command of the same name.
-/

namespace ShellMenu.Table

def put (command : Command) : List Command → List Command
  | [] => [command]
  | other :: rest => if other.name = command.name then command :: rest else other :: put command rest

def clear : Command where
  name := "clear"
  description := "Clear the screen."
  aliases := [.str "cls", .str "c"]
  builtin := some .clear

def exit : Command where
  name := "exit"
  description := "Exit the CLI."
  aliases := [.str "ex", .str "e"]
  builtin := some .exit

def help (menu : String) : Command where
  name := "help"
  description := s!"Show all the commands for the {menu} menu."
  aliases := [.str "?", .str "h"]
  builtin := some .help

/-- Takes a level from one up to the highest. -/
def auth (levels : List Int) : Command where
  name := "auth"
  description := "Authenticate to an access level."
  args := [{ name := "level"
             minimum := some (.int 1)
             maximum := some (.int (levels.max?.getD 0 + 1)) }]
  builtin := some .auth

def catchAll : Command where
  name := "*"
  description := "Invalid command."
  builtin := some .catchAll

def builtins (menu : String) (levels : List Int) : List Command :=
  [clear, exit, help menu] ++ (if levels.isEmpty then [] else [auth levels]) ++ [catchAll]

def ofMenu (menu : Menu) (levels : List Int) : List Command :=
  (builtins menu.name levels).foldl (fun table command => put command table) menu.commands

end ShellMenu.Table
