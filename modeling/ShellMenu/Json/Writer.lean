import ShellMenu.Json.Basic

/-
  JSON text in ASCII: every other character is written as one code unit or a pair of them.
-/

namespace ShellMenu.Json

def unitEscape (unit : Nat) : List Char :=
  '\\' :: 'u' :: Text.hexDigits 4 unit

def writtenChar (c : Char) : List Char :=
  if c = '"' || c = '\\' then ['\\', c]
  else if c = '\n' then ['\\', 'n']
  else if c = '\r' then ['\\', 'r']
  else if c = '\t' then ['\\', 't']
  else if c = '\x08' then ['\\', 'b']
  else if c = '\x0c' then ['\\', 'f']
  else if 0x20 ≤ c.toNat && c.toNat < 0x7f then [c]
  else if c.toNat < 0x10000 then unitEscape c.toNat
  else unitEscape (0xd800 + (c.toNat - 0x10000) / 0x400)
    ++ unitEscape (0xdc00 + (c.toNat - 0x10000) % 0x400)

def writtenString (text : String) : String :=
  String.ofList ('"' :: text.toList.flatMap writtenChar ++ ['"'])

def writtenFloat (value : Binary64) : String :=
  match value with
  | .nan => "NaN"
  | .infinite negative => if negative then "-Infinity" else "Infinity"
  | finite => finite.text

mutual

/-- Everything on one line. -/
def written : Json → String
  | .null => "null"
  | .bool value => if value then "true" else "false"
  | .int value => toString value
  | .float value => writtenFloat value
  | .str value => writtenString value
  | .arr items => "[" ++ ", ".intercalate (writtenItems items) ++ "]"
  | .obj members => "\x7b" ++ ", ".intercalate (writtenMembers members) ++ "\x7d"

def writtenItems : List Json → List String
  | [] => []
  | item :: rest => written item :: writtenItems rest

def writtenMembers : List (String × Json) → List String
  | [] => []
  | (name, value) :: rest => (writtenString name ++ ": " ++ written value) :: writtenMembers rest

end

def newline (depth : Nat) : String :=
  "\n" ++ Text.repeated (2 * depth) ' '

/-- Opens and closes on lines of their own, with the entries between them one step deeper. -/
def block (depth : Nat) (opening closing : String) (entries : List String) : String :=
  if entries.isEmpty then opening ++ closing
  else opening ++ newline (depth + 1) ++ ("," ++ newline (depth + 1)).intercalate entries
    ++ newline depth ++ closing

mutual

def indented (depth : Nat) : Json → String
  | .null => "null"
  | .bool value => if value then "true" else "false"
  | .int value => toString value
  | .float value => writtenFloat value
  | .str value => writtenString value
  | .arr items => block depth "[" "]" (indentedItems (depth + 1) items)
  | .obj members => block depth "\x7b" "\x7d" (indentedMembers (depth + 1) members)

def indentedItems (depth : Nat) : List Json → List String
  | [] => []
  | item :: rest => indented depth item :: indentedItems depth rest

def indentedMembers (depth : Nat) : List (String × Json) → List String
  | [] => []
  | (name, value) :: rest =>
      (writtenString name ++ ": " ++ indented depth value) :: indentedMembers depth rest

end

def byName (left right : String × Json) : Bool :=
  Text.atMost left.1 right.1

mutual

/-- The members of every object in the order of their names. -/
def sorted : Json → Json
  | .arr items => .arr (sortedItems items)
  | .obj members => .obj (sortBy byName (sortedMembers members))
  | value => value

def sortedItems : List Json → List Json
  | [] => []
  | item :: rest => sorted item :: sortedItems rest

def sortedMembers : List (String × Json) → List (String × Json)
  | [] => []
  | (name, value) :: rest => (name, sorted value) :: sortedMembers rest

end

/-- The text of a JSON file. -/
def fileText (value : Json) : String :=
  indented 0 value.sorted ++ "\n"

example : (Json.obj [("b", .arr []), ("a", .int 1)]).fileText
    = "\x7b\n  \"a\": 1,\n  \"b\": []\n\x7d\n" := by decide +kernel

end ShellMenu.Json
