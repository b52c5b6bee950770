import ShellMenu.Json.Basic

/-
  Reading JSON text. Every reader takes the characters that are left and gives back those after
  what it read; an error says how many characters were left where it was noticed.
-/

namespace ShellMenu.Json

inductive ReadFault where
  | byteOrderMark
  | expectedValue
  | expectedName
  | expectedColon
  | expectedComma
  | extraData
  | unterminatedString
  | controlCharacter
  | unknownEscape
  | malformedCodeUnit
deriving DecidableEq, Repr

def ReadFault.message : ReadFault → String
  | .byteOrderMark => "Unexpected UTF-8 BOM (decode using utf-8-sig)"
  | .expectedValue => "Expecting value"
  | .expectedName => "Expecting property name enclosed in double quotes"
  | .expectedColon => "Expecting ':' delimiter"
  | .expectedComma => "Expecting ',' delimiter"
  | .extraData => "Extra data"
  | .unterminatedString => "Unterminated string starting at"
  | .controlCharacter => "Invalid control character at"
  | .unknownEscape => "Invalid \\escape"
  | .malformedCodeUnit => "Invalid \\uXXXX escape"

/-- Why reading stops. A numeral with too many digits is well formed and not read all the same. -/
inductive ReadError where
  | malformed (fault : ReadFault) (left : Nat)
  | longNumeral
deriving DecidableEq, Repr

def refuse {α : Type} (fault : ReadFault) (rest : List Char) : Except ReadError α :=
  .error (.malformed fault rest.length)

def isSpace (c : Char) : Bool :=
  c = ' ' || c = '\t' || c = '\n' || c = '\r'

def skipSpace (chars : List Char) : List Char :=
  chars.dropWhile isSpace

def isDigit (c : Char) : Bool :=
  '0' ≤ c && c ≤ '9'

/-! ## Strings -/

def codeUnit? (a b c d : Char) : Option Nat := do
  let a ← Text.hexValue? a
  let b ← Text.hexValue? b
  let c ← Text.hexValue? c
  let d ← Text.hexValue? d
  return 4096 * a + 256 * b + 16 * c + d

def simpleEscape? (c : Char) : Option Char :=
  if c = '"' || c = '\\' || c = '/' then some c
  else if c = 'b' then some '\x08'
  else if c = 'f' then some '\x0c'
  else if c = 'n' then some '\n'
  else if c = 'r' then some '\r'
  else if c = 't' then some '\t'
  else none

/-- The code points and code units up to the closing quote. A code unit is only taken when
something follows its four digits. -/
def readUnits : List Char → Except ReadError (List Nat × List Char)
  | [] => refuse .unterminatedString []
  | '"' :: rest => .ok ([], rest)
  | ['\\'] => refuse .unterminatedString []
  | '\\' :: 'u' :: a :: b :: c :: d :: rest =>
      match codeUnit? a b c d, rest with
      | some unit, _ :: _ => do
          let (units, rest) ← readUnits rest
          return (unit :: units, rest)
      | _, _ => refuse .malformedCodeUnit ('u' :: a :: b :: c :: d :: rest)
  | '\\' :: c :: rest =>
      if c = 'u' then refuse .malformedCodeUnit (c :: rest)
      else match simpleEscape? c with
        | some meant => do
            let (units, rest) ← readUnits rest
            return (meant.toNat :: units, rest)
        | none => refuse .unknownEscape ('\\' :: c :: rest)
  | c :: rest =>
      if c.toNat < 0x20 then refuse .controlCharacter (c :: rest)
      else do
        let (units, rest) ← readUnits rest
        return (c.toNat :: units, rest)

def isHighUnit (n : Nat) : Bool := 0xd800 ≤ n && n < 0xdc00

def isLowUnit (n : Nat) : Bool := 0xdc00 ≤ n && n < 0xe000

def joinUnits (high low : Nat) : Nat :=
  0x10000 + (high - 0xd800) * 0x400 + (low - 0xdc00)

/-- Half of a pair stands for no character. -/
def unitChar (n : Nat) : Char :=
  if isHighUnit n || isLowUnit n then Char.ofNat 0xfffd else Char.ofNat n

/-- A high unit and the low unit after it make one character. -/
def joinPairs : List Nat → List Char
  | high :: low :: rest =>
      if isHighUnit high && isLowUnit low then Char.ofNat (joinUnits high low) :: joinPairs rest
      else unitChar high :: joinPairs (low :: rest)
  | [single] => [unitChar single]
  | [] => []

/-- Starts after the opening quote, which is where a string without end is reported. -/
def readString (chars : List Char) : Except ReadError (String × List Char) :=
  match readUnits chars with
  | .ok (units, rest) => .ok (String.ofList (joinPairs units), rest)
  | .error (.malformed .unterminatedString _) => refuse .unterminatedString ('"' :: chars)
  | .error error => .error error

/-! ## Numbers and words -/

def naturalOf (digits : List Char) : Nat :=
  digits.foldl (fun value c => 10 * value + (c.toNat - '0'.toNat)) 0

/-- A zero stands alone. -/
def wholePart? : List Char → Option (List Char × List Char)
  | [] => none
  | c :: rest =>
      if c = '0' then some ([c], rest)
      else if isDigit c then some (c :: rest.takeWhile isDigit, rest.dropWhile isDigit)
      else none

/-- The digits after a point; a point without digits is left. -/
def fractionPart : List Char → List Char × List Char
  | '.' :: rest =>
      match rest.takeWhile isDigit with
      | [] => ([], '.' :: rest)
      | digits => (digits, rest.dropWhile isDigit)
  | chars => ([], chars)

def exponentDigits? (negative : Bool) (chars : List Char) : Option (Int × List Char) :=
  match chars.takeWhile isDigit with
  | [] => none
  | digits => some (Binary64.signed negative (naturalOf digits), chars.dropWhile isDigit)

def exponentPart? : List Char → Option (Int × List Char)
  | c :: rest =>
      if c = 'e' || c = 'E' then
        match rest with
        | '-' :: rest => exponentDigits? true rest
        | '+' :: rest => exponentDigits? false rest
        | rest => exponentDigits? false rest
      else none
  | [] => none

/-- The longest number at the front. -/
def magnitude? (negative : Bool) (chars : List Char) : Option (Json × List Char) :=
  match wholePart? chars with
  | none => none
  | some (whole, rest) =>
      let (fraction, rest) := fractionPart rest
      match exponentPart? rest with
      | some (exponent, rest) =>
          some (.float (Binary64.ofDecimal negative (naturalOf (whole ++ fraction))
            (exponent - fraction.length)), rest)
      | none =>
          if fraction.isEmpty then some (.int (Binary64.signed negative (naturalOf whole)), rest)
          else some (.float (Binary64.ofDecimal negative (naturalOf (whole ++ fraction))
            (-(fraction.length : Int))), rest)

def number? : List Char → Option (Json × List Char)
  | '-' :: rest => magnitude? true rest
  | chars => magnitude? false chars

def words : List (String × Json) := [
  ("null", .null), ("true", .bool true), ("false", .bool false), ("NaN", .float .nan),
  ("Infinity", .float (.infinite false)), ("-Infinity", .float (.infinite true))]

def word? (chars : List Char) : Option (Json × List Char) :=
  (words.find? fun word => word.1.toList.isPrefixOf chars).map fun word =>
    (word.2, chars.drop word.1.length)

def readScalar (chars : List Char) : Except ReadError (Json × List Char) :=
  match word? chars with
  | some found => .ok found
  | none =>
      match number? chars with
      | some (value, rest) =>
          if value.hasShortIntegers then .ok (value, rest) else .error .longNumeral
      | none => refuse .expectedValue chars

/-! ## Values -/

mutual

/-- An array takes two calls for one bracket, one for the value and one for its items; every other
call reads a character before the next. So twice the number of characters is fuel enough. -/
def readValue : Nat → List Char → Except ReadError (Json × List Char)
  | 0, chars => refuse .expectedValue chars
  | fuel + 1, chars =>
      match chars with
      | '"' :: rest => do
          let (value, rest) ← readString rest
          return (.str value, rest)
      | '\x7b' :: rest =>
          match skipSpace rest with
          | '\x7d' :: rest => .ok (.obj [], rest)
          | rest => do
              let (members, rest) ← readMembers fuel rest
              return (.obj (distinctMembers members), rest)
      | '[' :: rest =>
          match skipSpace rest with
          | ']' :: rest => .ok (.arr [], rest)
          | rest => do
              let (items, rest) ← readItems fuel rest
              return (.arr items, rest)
      | chars => readScalar chars

/-- From the name of a member to the end of the object. -/
def readMembers : Nat → List Char → Except ReadError (List (String × Json) × List Char)
  | 0, chars => refuse .expectedName chars
  | fuel + 1, chars =>
      match chars with
      | '"' :: rest => do
          let (name, rest) ← readString rest
          match skipSpace rest with
          | ':' :: rest => do
              let (value, rest) ← readValue fuel (skipSpace rest)
              match skipSpace rest with
              | '\x7d' :: rest => .ok ([(name, value)], rest)
              | ',' :: rest => do
                  let (members, rest) ← readMembers fuel (skipSpace rest)
                  return ((name, value) :: members, rest)
              | rest => refuse .expectedComma rest
          | rest => refuse .expectedColon rest
      | chars => refuse .expectedName chars

/-- From an item to the end of the array. -/
def readItems : Nat → List Char → Except ReadError (List Json × List Char)
  | 0, chars => refuse .expectedValue chars
  | fuel + 1, chars => do
      let (value, rest) ← readValue fuel chars
      match skipSpace rest with
      | ']' :: rest => .ok ([value], rest)
      | ',' :: rest => do
          let (items, rest) ← readItems fuel (skipSpace rest)
          return (value :: items, rest)
      | rest => refuse .expectedComma rest

end

/-- A document is one value with white space around it. -/
def readDocument (chars : List Char) : Except ReadError Json :=
  if chars.head? = some (Char.ofNat 0xfeff) then refuse .byteOrderMark chars
  else do
    let (value, rest) ← readValue (2 * chars.length + 1) (skipSpace chars)
    match skipSpace rest with
    | [] => return value
    | rest => refuse .extraData rest

/-! ## Positions -/

/-- A line and a column, both counted from one. -/
structure Position where
  line : Nat
  column : Nat
deriving DecidableEq, Repr

def Position.after (chars : List Char) : Position :=
  { line := chars.count '\n' + 1
    column := (chars.reverse.takeWhile (· ≠ '\n')).length + 1 }

structure SyntaxError where
  fault : ReadFault
  position : Position
deriving DecidableEq, Repr

/-- Why a text is not read. -/
inductive ReadProblem where
  | malformed (error : SyntaxError)
  | longNumeral
deriving DecidableEq, Repr

def read (text : String) : Except ReadProblem Json :=
  let chars := text.toList
  match readDocument chars with
  | .ok value => .ok value
  | .error .longNumeral => .error .longNumeral
  | .error (.malformed fault left) =>
      .error (.malformed ⟨fault, Position.after (chars.take (chars.length - left))⟩)

end ShellMenu.Json
