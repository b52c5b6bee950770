import ShellMenu.Text.Basic

namespace ShellMenu.Text

/-- White space: the separators of the standard, and the control characters that move the
cursor or divide a record. -/
def isBlank (c : Char) : Bool :=
  let n := c.toNat
  (9 ≤ n && n ≤ 13) || (28 ≤ n && n ≤ 32) || n == 0x85 || n == 0xa0 || n == 0x1680
    || (0x2000 ≤ n && n ≤ 0x200a) || n == 0x2028 || n == 0x2029 || n == 0x202f || n == 0x205f
    || n == 0x3000

def trimEnd (text : String) : String :=
  trimEndWhere isBlank text

/-- Nothing but white space, or nothing at all. -/
def isBlankLine (text : String) : Bool :=
  text.toList.all isBlank

example : trimEnd "a \t\n" = "a" := by decide +kernel

end ShellMenu.Text
