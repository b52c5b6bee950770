import ShellMenu.Bash.Quote
import ShellMenu.Placeholder
import ShellMenu.Text.Lines

/-
  The pieces of a bash routine. A statement knows what it does; `lines` gives the text.
-/

namespace ShellMenu.Bash

/-- Restores the terminal. -/
def reset : String := Placeholder.braced "RESET"

def red : String := Placeholder.braced "RED"

def green : String := Placeholder.braced "GREEN"

def indent (lines : List String) : List String :=
  lines.map ("    " ++ ·)

def error (message : String) : String :=
  s!"error {doubleQuote message}"

def success (message : String) : String :=
  s!"printf \"{green}%s{reset}\\n\" {doubleQuote message}"

/-- Prints a text and reads a variable; what is typed for a hidden one does not show. -/
def prompt (text name : String) (hidden : Bool) : List String :=
  let flags := if hidden then "-r -s" else "-r"
  [s!"printf \"{printfEscape text}\"",
   s!"read {flags} {name} < \"$INPUT_DEVICE\"",
   s!"printf \"{reset}\""] ++ (if hidden then ["echo \"\""] else [])

def rejectWhen (condition message : String) : List String :=
  [s!"if {condition};", "then"] ++ indent [error message, "return 1"] ++ ["fi"]

/-- Why a value is turned down. -/
inductive Test where
  | notNumeral (name : String)
  | below (name bound : String)
  | reaches (name bound : String)
deriving DecidableEq, Repr

def Test.condition : Test → String
  | .notNumeral name => s!"! [[ \"${name}\" =~ ^-?[0-9]+$ ]]"
  | .below name bound => s!"[ \"${name}\" -lt \"{bound}\" ]"
  | .reaches name bound => s!"[ \"${name}\" -ge \"{bound}\" ]"

/-- Where the value of an argument comes from when none was passed. -/
inductive Supply where
  | value (word : String)
  | question (text : String) (hidden : Bool)
deriving DecidableEq, Repr

def Supply.lines (name : String) : Supply → List String
  | .value word => [s!"{name}={word}"]
  | .question text hidden => prompt text name hidden

inductive Statement where
  | line (text : String)
  | authored (text : String)
  | bind (name : String) (index : Nat)
  | supply (name : String) (source : Supply)
  | reject (test : Test) (message : String)
  | gate (level : String)
deriving DecidableEq, Repr

namespace Statement

def lines : Statement → List String
  | .line text => [text]
  | .authored text => [text]
  | .bind name index => [s!"{name}=$\x7bparts[{index}]\x7d"]
  | .supply name source =>
      [s!"if [ \"${name}\" == \"\" ];", "then"] ++ indent (source.lines name) ++ ["fi"]
  | .reject test message => rejectWhen test.condition message
  | .gate level =>
      [s!"if [ \"$AUTH_LEVEL\" != \"{level}\" ];", "then"] ++ indent [s!"auth_{level} || return 1"]
        ++ ["fi"]

end Statement

/-- What the first word typed has to be. -/
inductive ArmPattern where
  | anything
  | words (names : List String)
deriving DecidableEq, Repr

def ArmPattern.source : ArmPattern → String
  | .anything => "*"
  | .words names => " | ".intercalate (names.map doubleQuote)

/-- One arm of the case statement that picks a command. -/
structure Arm where
  description : String
  pattern : ArmPattern
  body : List Statement

namespace Arm

def bodyIndent : String := "        "

def source (arm : Arm) : String :=
  Text.joinLines ([s!"    # {arm.description}", s!"    {arm.pattern.source})"]
    ++ (arm.body.flatMap Statement.lines).map (bodyIndent ++ ·) ++ [bodyIndent ++ ";;"])

end Arm

structure Routine where
  name : String
  description : String
  code : String
deriving DecidableEq, Repr

namespace Routine

def ofLines (name description : String) (lines : List String) : Routine :=
  { name, description, code := Text.joinLines lines }

def source (routine : Routine) : String :=
  s!"\n# {routine.description}\n{routine.name} ()\n\x7b\n{Text.trimEnd routine.code}\n\x7d\n"

end Routine

end ShellMenu.Bash
