import ShellMenu.Text.Blank

/-
  Lines of a text. Three readings occur: the pieces between line feeds, the lines that any line
  break of the standard ends, and the text with every line end written as a line feed.
-/

namespace ShellMenu.Text

def isLineBreak (c : Char) : Bool :=
  let n := c.toNat
  (10 ≤ n && n ≤ 13) || (28 ≤ n && n ≤ 30) || n == 0x85 || n == 0x2028 || n == 0x2029

/-- A break ends its line and starts none; a carriage return and the line feed after it are one
break. -/
def brokenLines : List Char → List (List Char)
  | [] => []
  | '\r' :: '\n' :: rest => [] :: brokenLines rest
  | c :: rest =>
      if isLineBreak c then [] :: brokenLines rest
      else match brokenLines rest with
        | [] => [[c]]
        | line :: lines => (c :: line) :: lines

def splitLines (text : String) : List String :=
  (brokenLines text.toList).map String.ofList

def joinLines (lines : List String) : String :=
  "\n".intercalate lines

/-- The lines, each with a line feed after it. -/
def terminated (lines : List String) : String :=
  joinLines lines ++ "\n"

def fromCrlf (text : String) : String :=
  replaceAll "\r\n" "\n" text

def toCrlf (text : String) : String :=
  replaceAll "\n" "\r\n" (fromCrlf text)

/-- A line end of any of the three usual kinds becomes a line feed. -/
def unifyNewlines (text : String) : String :=
  replaceAll "\r" "\n" (fromCrlf text)

/-- What a comparison of two texts looks at. -/
def normalizedLines (text : String) : List String :=
  splitLines (fromCrlf text)

def trimEndNewlines (text : String) : String :=
  trimEndWhere (· == '\n') text

example : splitLines "a\r\nb\n\nc" = ["a", "b", "", "c"] := by decide +kernel
example : toCrlf "a\nb\r\n" = "a\r\nb\r\n" := by decide +kernel

end ShellMenu.Text
