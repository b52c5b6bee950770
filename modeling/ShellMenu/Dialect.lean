import ShellMenu.Error

namespace ShellMenu

/-- The two script languages that every description is turned into. -/
inductive Dialect where
  | bash
  | batch
deriving DecidableEq, Repr

namespace Dialect

def all : List Dialect := [.bash, .batch]

def name : Dialect → String
  | .bash => "bash"
  | .batch => "batch"

/-- Of the files that hold script fragments. -/
def extension : Dialect → String
  | .bash => "sh"
  | .batch => "bat"

/-- The member of a command that holds its body. -/
def inlineField : Dialect → String
  | .bash => "bashCommand"
  | .batch => "batchCommand"

def platform : Dialect → String
  | .bash => "Unix"
  | .batch => "Windows"

def ofName (name : String) : Result Dialect :=
  match all.find? (·.name = name) with
  | some dialect => .ok dialect
  | none => failing (.unknownDialect name (all.map Dialect.name))

end Dialect

end ShellMenu
