import ShellMenu.Text.Basic

namespace ShellMenu.Escape

/-- One kind of character after the other gets the escape put before it. An escape that is
itself among the characters has to come first, or it would be escaped again. -/
def sequential (escape : String) (characters : List String) (text : String) : String :=
  characters.foldl (fun text character => Text.replaceAll character (escape ++ character) text) text

/-- A letter, a digit or an underscore, and an underscore for anything else. -/
def identifierChar (c : Char) : Char :=
  if c.isAlphanum || c = '_' then c else '_'

def toIdentifier (text : String) : String :=
  let cleaned := String.ofList (text.toList.map identifierChar)
  if Text.isEmpty cleaned then "_" else cleaned

example : sequential "\\" ["\\", "\""] "a\\\"" = "a\\\\\\\"" := by decide +kernel
example : toIdentifier "go-é" = "go__" := by decide +kernel

end ShellMenu.Escape
