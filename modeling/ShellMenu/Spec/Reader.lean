import ShellMenu.Json.Access
import ShellMenu.Json.Order
import ShellMenu.Spec.Basic
import ShellMenu.Text.Integer
import ShellMenu.Variables

/-
  From a JSON document to a spec. The reader asks little of the document, so that it can also
  read one that no schema has looked at; what the scripts rely on is checked at the end.
-/

namespace ShellMenu

def Inline.ofJson : Json → Option Inline
  | .str text => some (.single text)
  | .arr items => some (.multi (items.map Json.display))
  | _ => none

/-- An argument is searched for its default before its members are read: texts and arrays can be
searched, and have no members. -/
def Json.checkArg : Json → Result Unit
  | .obj _ => .ok ()
  | .arr _ | .str _ => breaking .notAnObject
  | _ => breaking .notIndexable

def Arg.ofJson (name : String) (payload : Json) : Result Arg := do
  payload.checkArg
  return {
    name
    fallback := payload.member? "default"
    minimum := payload.given? "minValue"
    maximum := payload.given? "maxValue"
    promptMessage := payload.given? "promptMessage"
    hidden := ((payload.given? "hidden").map Json.isSomething).getD false }

/-- Null and everything empty describes nothing. -/
def descriptionText (value : Option Json) : String :=
  match value with
  | some value => if value.isSomething then value.display else ""
  | none => ""

def Command.ofJson (name : String) (payload : Json) : Result Command := do
  let _ ← payload.fields
  let args ← (← Json.entries (payload.given? "args")).mapM fun (name, arg) => Arg.ofJson name arg
  let aliases ← Json.listed (payload.given? "aliases")
  return {
    name
    description := descriptionText (payload.given? "description")
    aliases
    args
    access := payload.given? "access"
    visible := payload.given? "visible"
    script := payload.given? "script"
    bashBody := (payload.given? (Dialect.inlineField .bash)).bind Inline.ofJson
    batchBody := (payload.given? (Dialect.inlineField .batch)).bind Inline.ofJson }

def Splash.ofJson (value : Json) : Result (Option Splash) :=
  match value with
  | .null => .ok none
  | .str text => .ok (some (.plain text))
  | value => do
      let text ← value.required "text"
      let font ← value.required "font"
      return some (.art text font (value.given? "color"))

def Menu.ofJson (name : String) (payload : Json) : Result Menu := do
  let _ ← payload.fields
  let commands ← (← Json.entries (payload.given? "commands")).mapM fun (name, command) =>
    Command.ofJson name command
  let splash ← Splash.ofJson ((payload.given? "splash").getD .null)
  return {
    name
    header := payload.given? "header"
    lead := ((payload.given? "prefix").filter Json.isSomething).getD (.str "> ")
    splash
    commands }

namespace AuthMethod

def ofJson (key : String) (payload : Json) : Result AuthMethod := do
  let some level := Text.integer? key | breaking (.malformedInteger key)
  let kind ← payload.required "type"
  let hash ← payload.required "hash"
  return { level, kind, digest := Text.lower hash.display }

end AuthMethod

def AuthTable.ofJson (value : Option Json) : Result AuthTable := do
  let methods ← (← Json.entries value).mapM fun (key, method) => AuthMethod.ofJson key method
  return AuthTable.ofList methods

/-! ## What the scripts rely on -/

def declaresLevel (levels : List Int) (access : Json) : Bool :=
  match access.integer? with
  | some level => levels.contains level
  | none => false

def argProblems (place : String) (arg : Arg) : Result (List String) := do
  let place := s!"{place}.args.{arg.name}: "
  let taken := if Variables.isReserved arg.name then
    [s!"{place}name is reserved by the generated scripts"] else []
  match arg.minimum, arg.maximum with
  | some low, some high =>
      match low.atLeast? high with
      | none => breaking .incomparable
      | some true =>
          return taken ++
            [s!"{place}minValue {low.display} must be less than maxValue {high.display}"]
      | some false => return taken
  | _, _ => return taken

def accessProblems (levels : List Int) (place : String) : Option Json → Result (List String)
  | none => .ok []
  | some access =>
      if !access.isKey then breaking .notAKey
      else if declaresLevel levels access then .ok []
      else .ok [s!"{place}.access: auth level {access.display} is not declared in auth"]

def commandProblems (levels : List Int) (menu : String) (command : Command) :
    Result (List String) := do
  let place := s!"$.menus.{menu}.commands.{command.name}"
  let access ← accessProblems levels place command.access
  let args ← command.args.mapM (argProblems place)
  return access ++ args.flatten

def menuProblems (levels : List Int) (menu : Menu) : Result (List String) := do
  let problems ← menu.commands.mapM (commandProblems levels menu.name)
  return problems.flatten

def undefinedMenu (menus : List String) (name : String) : String :=
  s!"mainMenu '{name}' is not defined in menus (known menus: {Fault.listed menus})"

def mainMenuProblems (menus : List String) (mainMenu : Json) : Result (List String) :=
  match mainMenu with
  | .str name => .ok (if menus.contains name then [] else [undefinedMenu menus name])
  | other => if other.isKey then .ok [undefinedMenu menus other.display] else breaking .notAKey

def specProblems (mainMenu : Json) (menus : List Menu) (levels : List Int) :
    Result (List String) := do
  let main ← mainMenuProblems (menus.map Menu.name) mainMenu
  let problems ← menus.mapM (menuProblems levels)
  return main ++ problems.flatten

/-- `source` is the file that problems are reported in. -/
def Spec.ofJson (payload : Json) (source : String) : Result Spec := do
  let _ ← payload.fields
  let auth ← AuthTable.ofJson (payload.given? "auth")
  let title ← payload.required "title"
  let uri ← payload.required "uri"
  let mainMenu ← payload.required "mainMenu"
  let menus ← (← (← payload.required "menus").fields).mapM fun (name, menu) => Menu.ofJson name menu
  match ← specProblems mainMenu menus auth.levels with
  | [] =>
      return { title, uri, description := payload.given? "description",
               mainMenu := mainMenu.display, menus, auth }
  | problems => failing (.invalidSchema source problems)

end ShellMenu
