import ShellMenu.Text.Case

/-
  The variables that every generated script defines, and the names that an argument must not
  take because a script uses them itself.
-/

namespace ShellMenu.Variables

/-- Terminal colors and their codes. -/
def colors : List (String × Nat) := [
  ("RESET", 0), ("BLACK", 30), ("RED", 31), ("GREEN", 32), ("YELLOW", 33), ("BLUE", 34),
  ("MAGENTA", 35), ("CYAN", 36), ("GREY", 37), ("DARK_GREY", 90), ("BRIGHT_RED", 91),
  ("BRIGHT_GREEN", 92), ("BRIGHT_YELLOW", 93), ("BRIGHT_BLUE", 94), ("BRIGHT_PURPLE", 95),
  ("BRIGHT_CYAN", 96), ("WHITE", 97), ("BG_BLACK", 40), ("BG_RED", 41), ("BG_GREEN", 42),
  ("BG_YELLOW", 43), ("BG_BLUE", 44), ("BG_MAGENTA", 45), ("BG_CYAN", 46), ("BG_GREY", 47),
  ("BG_DARK_GREY", 100), ("BG_BRIGHT_RED", 101), ("BG_BRIGHT_GREEN", 102),
  ("BG_BRIGHT_YELLOW", 103), ("BG_BRIGHT_BLUE", 104), ("BG_BRIGHT_PURPLE", 105),
  ("BG_BRIGHT_CYAN", 106), ("BG_WHITE", 107)]

def colorNames : List String := colors.map Prod.fst

def shared : List (String × String) := [("AUTH_LEVEL", "0")]

def bashOnly : List (String × String) := [("USER", "$(whoami)")]

def batchOnly : List (String × String) := [("USER", "%USERNAME%"), ("exit", "0")]

/-- Set by the command interpreter itself. -/
def batchDynamic : List String := ["TIME", "DATE", "CD", "RANDOM", "USERNAME", "COMPUTERNAME"]

def bash : List (String × String) :=
  shared ++ bashOnly ++ colors.map fun (name, code) => (name, s!"'\\e[{code}m'")

def batch : List (String × String) :=
  shared ++ batchOnly ++ colors.map fun (name, code) => (name, s!"\x1b[{code}m")

/-- What a placeholder in batch text may refer to. -/
def batchNames : List String := batch.map Prod.fst ++ batchDynamic

/-- Assigned while a script runs. -/
def working : List String := [
  "parts", "input", "key", "hashed_key", "func", "errMsg", "non_numeric", "auth_known", "c",
  "INPUT_DEVICE", "IFS", "PATH"]

/-- In lower case, since the batch interpreter ignores case in names. -/
def reserved : List String :=
  ((shared ++ bashOnly ++ batchOnly).map Prod.fst ++ colorNames ++ batchDynamic ++ working).map
    Text.lower |>.eraseDups

def isReserved (name : String) : Bool :=
  reserved.contains (Text.lower name)

end ShellMenu.Variables
