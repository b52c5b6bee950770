import ShellMenu.Escape
import ShellMenu.Json.Access

/-
  Text in bash: inside double quotes, as a printf format, and as one word.
-/

namespace ShellMenu.Bash

/-- For the inside of double quotes; placeholders stay live. -/
def escape (text : String) : String :=
  Escape.sequential "\\" ["\\", "\"", "\x60", "'"] text

def printfFormat (text : String) : String :=
  Text.replaceAll "%" "%%" (Text.replaceAll "\\" "\\\\" text)

/-- A format inside double quotes that prints the text. -/
def printfEscape (text : String) : String :=
  escape (printfFormat text)

/-- In double quotes, with nothing live in it. -/
def doubleQuote (text : String) : String :=
  "\"" ++ Escape.sequential "\\" ["\\", "\"", "$", "\x60"] text ++ "\""

def isSafe (c : Char) : Bool :=
  c.isAlphanum || "_@%+=:,./-".toList.contains c

/-- In single quotes unless every character is safe as it is. -/
def quoteWord (text : String) : String :=
  if Text.isEmpty text then "''"
  else if text.toList.all isSafe then text
  else "'" ++ Text.replaceAll "'" "'\"'\"'" text ++ "'"

/-- A default value as a word; null and what is empty become an empty one. -/
def valueWord : Json → String
  | .bool value => if value then "true" else "false"
  | .int value => toString value
  | .float value => value.text
  | value => if value.isSomething then quoteWord value.display else "''"

/-- An array or an object with something in it is no word. -/
def checkWord (value : Json) : Result Unit :=
  if value.isKey || !value.isSomething then .ok () else breaking .notAPiece

example : doubleQuote "a\"$" = "\"a\\\"\\$\"" := by decide +kernel
example : quoteWord "it's" = "'it'\"'\"'s'" := by decide +kernel

end ShellMenu.Bash
