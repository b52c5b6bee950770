import ShellMenu.Error

/-
  Taking a value apart that may be of another kind than the one asked for. Nothing is converted on
  the way: a value of another kind is a breakdown.
-/

namespace ShellMenu.Json

/-- Members of a value that has to be an object, each name once. -/
def fields (value : Json) : Result (List (String × Json)) :=
  match value with
  | .obj members => .ok (distinctMembers members)
  | _ => breaking .notAnObject

def required (value : Json) (name : String) : Result Json :=
  match value with
  | .obj members =>
      match members.lookup name with
      | some found => .ok found
      | none => breaking (.missingMember name)
  | _ => breaking .notIndexable

/-- The members of an object that may be left out. -/
def entries (value : Option Json) : Result (List (String × Json)) :=
  match value with
  | none => .ok []
  | some value => if value.isSomething then value.fields else .ok []

/-- What a value enumerates: an array its items, a text its characters, an object its names. -/
def listed (value : Option Json) : Result (List Json) :=
  match value with
  | none => .ok []
  | some (.arr items) => .ok items
  | some (.str text) => .ok (text.toList.map fun c => .str (String.singleton c))
  | some (.obj members) => .ok (members.map fun member => .str member.1)
  | some value => if value.isSomething then breaking .notIndexable else .ok []

/-- Arrays and objects cannot be looked up. -/
def isKey : Json → Bool
  | .arr _ | .obj _ => false
  | _ => true

def isText (value : Json) : Bool :=
  value.string?.isSome

/-- The text that a value has to be for its characters to be changed. -/
def text (value : Json) : Result String :=
  match value with
  | .str text => .ok text
  | _ => breaking .notText

/-- The text that a value has to be to become part of another text. -/
def piece (value : Json) : Result String :=
  match value with
  | .str text => .ok text
  | _ => breaking .notAPiece

/-- The value as running text, unless an integer in it is too long to be written. -/
def shown (value : Json) : Result String :=
  if value.hasShortIntegers then .ok value.display else breaking .longNumeral

end ShellMenu.Json
