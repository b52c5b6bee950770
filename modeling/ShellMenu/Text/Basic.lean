import ShellMenu.Sorting

/-
  Plain operations on text. Each one is a function on the list of characters, with a form on
  strings beside it: the list form is the one to reason about.
-/

namespace ShellMenu.Text

/-- The occurrences are taken from the left and do not overlap; `skip` characters belong to the
occurrence just replaced. -/
def replaceFrom (old fresh : List Char) : Nat → List Char → List Char
  | _, [] => []
  | skip + 1, _ :: rest => replaceFrom old fresh skip rest
  | 0, c :: rest =>
      if old.isPrefixOf (c :: rest) then fresh ++ replaceFrom old fresh (old.length - 1) rest
      else c :: replaceFrom old fresh 0 rest

/-- Empty text occurs before every character and at the end. -/
def replaceChars (old fresh chars : List Char) : List Char :=
  if old.isEmpty then fresh ++ chars.flatMap (fun c => c :: fresh)
  else replaceFrom old fresh 0 chars

def replaceAll (old fresh text : String) : String :=
  String.ofList (replaceChars old.toList fresh.toList text.toList)

def trimEndChars (drop : Char → Bool) (chars : List Char) : List Char :=
  (chars.reverse.dropWhile drop).reverse

def trimEndWhere (drop : Char → Bool) (text : String) : String :=
  String.ofList (trimEndChars drop text.toList)

/-- The pieces between the separators: one more than there are separators. -/
def splitAt (separator : Char) (text : String) : List String :=
  (text.toList.splitOn separator).map String.ofList

def padRight (width : Nat) (text : String) : String :=
  text ++ String.ofList (List.replicate (width - text.length) ' ')

def repeated (count : Nat) (c : Char) : String :=
  String.ofList (List.replicate count c)

/-- No characters at all. -/
def isEmpty (text : String) : Bool :=
  text.toList.isEmpty

def hasChar (text : String) (c : Char) : Bool :=
  text.toList.contains c

def startsWith (text start : String) : Bool :=
  start.toList.isPrefixOf text.toList

/-- Order by code points. -/
def atMost (left right : String) : Bool :=
  !(right.toList < left.toList)

def sortTexts (texts : List String) : List String :=
  sortBy atMost texts

def hexDigit (n : Nat) : Char :=
  (Nat.digitChar (n % 16))

/-- The last `width` hexadecimal digits of `n`, in lower case. -/
def hexDigits : Nat → Nat → List Char
  | 0, _ => []
  | width + 1, n => hexDigits width (n / 16) ++ [hexDigit n]

def hexValue? (c : Char) : Option Nat :=
  if '0' ≤ c ∧ c ≤ '9' then some (c.toNat - '0'.toNat)
  else if 'a' ≤ c ∧ c ≤ 'f' then some (c.toNat - 'a'.toNat + 10)
  else if 'A' ≤ c ∧ c ≤ 'F' then some (c.toNat - 'A'.toNat + 10)
  else none

example : replaceAll "ab" "x" "aabab" = "axx" := by decide +kernel
example : replaceAll "" "-" "ab" = "-a-b-" := by decide +kernel
example : hexDigits 4 0xe9 = ['0', '0', 'e', '9'] := by decide

end ShellMenu.Text
