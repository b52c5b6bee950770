import ShellMenu.Variables

/-
  Placeholders in authored text: `$NAME`, or the name in braces after the dollar sign. A text is
  a sequence of pieces, and conversion changes some pieces and leaves the others as they are.
-/

namespace ShellMenu.Placeholder

def isNameStart (c : Char) : Bool :=
  ('a' ≤ c && c ≤ 'z') || ('A' ≤ c && c ≤ 'Z') || c = '_'

def isNameChar (c : Char) : Bool :=
  isNameStart c || ('0' ≤ c && c ≤ '9')

inductive Piece where
  | plain (c : Char)
  | bare (name : List Char)
  | braced (name : List Char)
deriving DecidableEq, Repr

def Piece.chars : Piece → List Char
  | .plain c => [c]
  | .bare name => '$' :: name
  | .braced name => '$' :: '\x7b' :: name ++ ['\x7d']

/-- The placeholder for a name, in braces. -/
def braced (name : String) : String :=
  "$\x7b" ++ name ++ "\x7d"

/-- The longest name at the front, empty if there is none. -/
def nameAt : List Char → List Char
  | [] => []
  | c :: rest => if isNameStart c then c :: rest.takeWhile isNameChar else []

/-- What the characters after a dollar sign make of it. -/
def placeholderAt? : List Char → Option Piece
  | '\x7b' :: rest =>
      let name := nameAt rest
      if !name.isEmpty && (rest.drop name.length).head? = some '\x7d' then some (.braced name)
      else none
  | chars =>
      let name := nameAt chars
      if name.isEmpty then none else some (.bare name)

/-- `skip` characters belong to the placeholder before. -/
def piecesFrom : Nat → List Char → List Piece
  | _, [] => []
  | skip + 1, _ :: rest => piecesFrom skip rest
  | 0, c :: rest =>
      match if c = '$' then placeholderAt? rest else none with
      | some piece => piece :: piecesFrom (piece.chars.length - 1) rest
      | none => .plain c :: piecesFrom 0 rest

def pieces (chars : List Char) : List Piece :=
  piecesFrom 0 chars

/-- A placeholder for one of the names becomes a batch reference. -/
def Piece.converted (names : List String) : Piece → List Char
  | .plain c => [c]
  | .bare name => if names.contains (String.ofList name) then '%' :: name ++ ['%'] else '$' :: name
  | .braced name =>
      if names.contains (String.ofList name) then '%' :: name ++ ['%']
      else '$' :: '\x7b' :: name ++ ['\x7d']

def convertChars (names : List String) (chars : List Char) : List Char :=
  (pieces chars).flatMap (Piece.converted names)

def convert (names : List String) (text : String) : String :=
  String.ofList (convertChars names text.toList)

example : convert ["USER"] "$USER $USERX $\x7bUSER\x7d!" = "%USER% $USERX %USER%!" := by decide +kernel

end ShellMenu.Placeholder
