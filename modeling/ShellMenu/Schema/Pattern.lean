import ShellMenu.Text.Blank

/-
  Patterns for whole texts: at most one first character of one class, then characters of another
  class. As the end of a text counts its real end, and also the place before a final line feed.
-/

namespace ShellMenu

/-- What a character class lists. -/
inductive ClassMember where
  | range (low high : Char)
  | single (c : Char)
  | space
deriving DecidableEq, Repr

namespace ClassMember

def has : ClassMember → Char → Bool
  | .range low high, c => low ≤ c && c ≤ high
  | .single listed, c => c = listed
  | .space, c => Text.isBlank c

def source : ClassMember → String
  | .range low high => String.ofList [low, '-', high]
  | .single c => String.singleton c
  | .space => "\\s"

end ClassMember

structure CharClass where
  negated : Bool := false
  members : List ClassMember
deriving DecidableEq, Repr

namespace CharClass

def has (chars : CharClass) (c : Char) : Bool :=
  chars.members.any (·.has c) != chars.negated

def source (chars : CharClass) : String :=
  "[" ++ (if chars.negated then "^" else "") ++ String.join (chars.members.map ClassMember.source)
    ++ "]"

end CharClass

inductive Count where
  | any
  | atLeastOne
  | exactly (count : Nat)
deriving DecidableEq, Repr

namespace Count

def allows : Count → Nat → Bool
  | .any, _ => true
  | .atLeastOne, n => 1 ≤ n
  | .exactly count, n => n = count

def source : Count → String
  | .any => "*"
  | .atLeastOne => "+"
  | .exactly count => "\x7b" ++ toString count ++ "\x7d"

end Count

structure Pattern where
  first : Option CharClass := none
  rest : CharClass
  count : Count
deriving DecidableEq, Repr

namespace Pattern

def source (pattern : Pattern) : String :=
  "^" ++ ((pattern.first.map CharClass.source).getD "") ++ pattern.rest.source
    ++ pattern.count.source ++ "$"

def fitsRest (pattern : Pattern) (chars : List Char) : Bool :=
  chars.all pattern.rest.has && pattern.count.allows chars.length

/-- The characters from the start to the real end. -/
def fits (pattern : Pattern) (chars : List Char) : Bool :=
  match pattern.first with
  | none => pattern.fitsRest chars
  | some first =>
      match chars with
      | [] => false
      | c :: rest => first.has c && pattern.fitsRest rest

def accepts (pattern : Pattern) (text : String) : Bool :=
  let chars := text.toList
  pattern.fits chars || (chars.getLast? = some '\n' && pattern.fits chars.dropLast)

end Pattern

namespace Pattern

def lettersAndUnderscore : List ClassMember := [.range 'A' 'Z', .range 'a' 'z', .single '_']

/-- A letter or an underscore, then letters, digits and underscores. -/
def identifier : Pattern where
  first := some { members := lettersAndUnderscore }
  rest := { members := [.range 'A' 'Z', .range 'a' 'z', .range '0' '9', .single '_'] }
  count := .any

/-- A decimal numeral without a leading zero. -/
def level : Pattern where
  first := some { members := [.range '1' '9'] }
  rest := { members := [.range '0' '9'] }
  count := .any

/-- No blanks, quotes, asterisks, percent or dollar signs. -/
def commandName : Pattern where
  rest := { negated := true
            members := [.space, .single '"', .single '\'', .single '*', .single '%', .single '$'] }
  count := .atLeastOne

def color : Pattern where
  rest := { members := lettersAndUnderscore }
  count := .atLeastOne

def fileStem : Pattern where
  rest := { members := [.range 'A' 'Z', .range 'a' 'z', .range '0' '9', .single '_', .single '.',
                        .single '-'] }
  count := .atLeastOne

/-- Forty hexadecimal digits. -/
def digest : Pattern where
  rest := { members := [.range '0' '9', .range 'A' 'F', .range 'a' 'f'] }
  count := .exactly 40

/-- A member name that a path can show after a dot. -/
def pathName : Pattern where
  first := some { members := [.range 'a' 'z', .range 'A' 'Z'] }
  rest := { members := [.range 'a' 'z', .range 'A' 'Z', .range '0' '9', .single '_'] }
  count := .any

example : commandName.source = "^[^\\s\"'*%$]+$" := by decide +kernel
example : digest.source = "^[0-9A-Fa-f]\x7b40\x7d$" := by decide +kernel
example : identifier.accepts "ab\n" = true ∧ identifier.accepts "1b" = false := by decide +kernel

end Pattern

end ShellMenu
