import ShellMenu.Schema.Basic

/-
  The schema of a menu description.
-/

namespace ShellMenu.Schema

def arg : Schema :=
  .record [] [
    ("default", .scalar),
    ("minValue", .integer none),
    ("maxValue", .integer none),
    ("promptMessage", .text false none),
    ("hidden", .boolean)]

def inlineBody : Schema :=
  .either [.text false none, .list (.text false none)]

def command : Schema :=
  .record ["description"] [
    ("description", .text false none),
    ("args", .map false Pattern.identifier (.named "arg" arg)),
    ("aliases", .list (.text false (some Pattern.commandName))),
    ("access", .integer (some 1)),
    ("script", .text false (some Pattern.fileStem)),
    ("bashCommand", .named "inlineBody" inlineBody),
    ("batchCommand", .named "inlineBody" inlineBody),
    ("visible", .boolean)]

def splash : Schema :=
  .either [
    .text false none,
    .record ["text", "font"] [
      ("text", .text true none),
      ("font", .text true none),
      ("color", .text false (some Pattern.color))]]

def menu : Schema :=
  .record [] [
    ("header", .text false none),
    ("prefix", .text false none),
    ("splash", .named "splash" splash),
    ("commands", .map false Pattern.commandName (.named "command" command))]

def authMethod : Schema :=
  .record ["type", "hash"] [
    ("type", .choice ["hash"]),
    ("hash", .text false (some Pattern.digest))]

def description : Schema :=
  .record ["title", "uri", "mainMenu", "menus"] [
    ("$schema", .text false none),
    ("title", .described (.text true none) "Title of the CLI, used for the generated pages."),
    ("uri", .described (.text true none) "Domain the scripts are served from (written to CNAME)."),
    ("description", .text false none),
    ("mainMenu", .described (.text true none) "Name of the menu shown on startup."),
    ("menus", .map true Pattern.identifier (.named "menu" menu)),
    ("auth", .map false Pattern.level (.named "authMethod" authMethod))]

/-- What the schema refers to by name. -/
def definitions : List (String × Schema) := [
  ("menu", menu), ("splash", splash), ("inlineBody", inlineBody), ("command", command),
  ("arg", arg), ("authMethod", authMethod)]

def document : Json :=
  .obj ([("$schema", .str "http://json-schema.org/draft-07/schema#"),
         ("$id", .str "https://shellforge.dev/schemas/cli.schema.json"),
         ("title", .str "CLI"),
         ("description", .str "Declarative definition of a menu-driven remote CLI.")]
    ++ description.fields ++ [("definitions", .obj (declaredFields definitions))])

end ShellMenu.Schema
