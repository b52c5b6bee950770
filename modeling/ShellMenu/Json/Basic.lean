import ShellMenu.Number.Shortest
import ShellMenu.Text.Digit
import ShellMenu.Text.Quoted

/-
  JSON values. Integers and doubles are kept apart, and an object keeps the order of its
  members.
-/

namespace ShellMenu

inductive Json where
  | null
  | bool (value : Bool)
  | int (value : Int)
  | float (value : Binary64)
  | str (value : String)
  | arr (items : List Json)
  | obj (members : List (String × Json))
deriving Inhabited

namespace Json

/-- A repeated name keeps its place and takes the new value. -/
def setMember (name : String) (value : Json) : List (String × Json) → List (String × Json)
  | [] => [(name, value)]
  | (other, old) :: rest =>
      if other = name then (other, value) :: rest else (other, old) :: setMember name value rest

def distinctMembers (members : List (String × Json)) : List (String × Json) :=
  members.foldl (fun kept member => setMember member.1 member.2 kept) []

def members? : Json → Option (List (String × Json))
  | .obj members => some members
  | _ => none

def member? (value : Json) (name : String) : Option Json :=
  value.members?.bind (·.lookup name)

/-- A member that is there and not null. -/
def given? (value : Json) (name : String) : Option Json :=
  match value.member? name with
  | some .null => none
  | found => found

/-- Null, false, zero and everything empty count as nothing. -/
def isSomething : Json → Bool
  | .null => false
  | .bool value => value
  | .int value => value ≠ 0
  | .float value => !value.isZero
  | .str value => !Text.isEmpty value
  | .arr items => !items.isEmpty
  | .obj members => !members.isEmpty

def string? : Json → Option String
  | .str value => some value
  | _ => none

/-- The integer that a value equals as a number; truth values count as one and zero. -/
def integer? : Json → Option Int
  | .int value => some value
  | .bool value => some (if value then 1 else 0)
  | .float value => value.toInt?
  | _ => none

def isShortInteger (value : Int) : Bool :=
  value.natAbs < Nat.pow 10 Text.mostDigits

mutual

/-- Every integer in the value can be written. -/
def hasShortIntegers : Json → Bool
  | .int value => isShortInteger value
  | .arr items => itemsHaveShortIntegers items
  | .obj members => membersHaveShortIntegers members
  | _ => true

def itemsHaveShortIntegers : List Json → Bool
  | [] => true
  | item :: rest => hasShortIntegers item && itemsHaveShortIntegers rest

def membersHaveShortIntegers : List (String × Json) → Bool
  | [] => true
  | (_, value) :: rest => hasShortIntegers value && membersHaveShortIntegers rest

end

mutual

/-- How many arrays and objects lie inside one another. -/
def depth : Json → Nat
  | .arr items => itemsDepth items + 1
  | .obj members => membersDepth members + 1
  | _ => 0

def itemsDepth : List Json → Nat
  | [] => 0
  | item :: rest => max (depth item) (itemsDepth rest)

def membersDepth : List (String × Json) → Nat
  | [] => 0
  | (_, value) :: rest => max (depth value) (membersDepth rest)

end

mutual

/-- The value as messages show it, texts in quotes. -/
def literal : Json → String
  | .null => "None"
  | .bool value => if value then "True" else "False"
  | .int value => toString value
  | .float value => value.text
  | .str value => Text.quoted value
  | .arr items => "[" ++ ", ".intercalate (itemLiterals items) ++ "]"
  | .obj members => "\x7b" ++ ", ".intercalate (memberLiterals members) ++ "\x7d"

def itemLiterals : List Json → List String
  | [] => []
  | item :: rest => literal item :: itemLiterals rest

def memberLiterals : List (String × Json) → List String
  | [] => []
  | (name, value) :: rest => (Text.quoted name ++ ": " ++ literal value) :: memberLiterals rest

end

/-- The value as running text: a text stands for itself. -/
def display : Json → String
  | .str value => value
  | value => value.literal

example : (Json.arr [.int 1, .str "a", .null]).display = "[1, 'a', None]" := by decide +kernel

end Json

end ShellMenu
