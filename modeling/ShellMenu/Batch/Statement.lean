import ShellMenu.Batch.Escape
import ShellMenu.Text.Lines

/-
  The pieces of a batch routine. A statement knows what it does; `lines` gives the text. Labels and
  jumps are statements of their own, so that what a routine defines and where it goes can be read
  off its statements.
-/

namespace ShellMenu.Batch

def indent (lines : List String) : List String :=
  lines.map ("    " ++ ·)

/-- A routine is told apart by the variable `func`. -/
def call (routine : String) (args : List String) : List String :=
  let passed := " ".intercalate args
  [s!"set func={routine}", Text.trimEnd s!"call :func_{routine} {passed}"]

def error (message : String) : List String :=
  s!"set \"errMsg={message}\"" :: call "error" []

def fail (message : String) : List String :=
  ["("] ++ indent (error message ++ ["exit /b 1"]) ++ [")"]

/-- A blank line has a spelling of its own. -/
def echoLine (line : String) : String :=
  if Text.isBlankLine line then "echo." else s!"echo {line}"

def echo (text : String) : List String :=
  (Text.splitAt '\n' text).map echoLine

def prompt (text name : String) : List String :=
  [s!"set \"{name}=\"", s!"set /p {name}={escape text}"]

/-- What is typed does not show; the label stands in single quotes. -/
def hiddenPrompt (label name : String) : List String :=
  let quoted := Text.replaceAll "'" "''" label
  let read := s!"$p = Read-Host -AsSecureString -Prompt '{quoted}'; "
    ++ "[Runtime.InteropServices.Marshal]::PtrToStringAuto("
    ++ "[Runtime.InteropServices.Marshal]::SecureStringToBSTR($p))"
  [s!"set \"{name}=\"",
   s!"for /f \"usebackq delims=\" %%p in (\x60powershell -NoProfile -Command \"{read}\"\x60) do "
     ++ s!"set \"{name}=%%p\""]

inductive Condition where
  | token (word : String) (same : Bool)
  | variable (name value : String) (same : Bool)
  | defined (name : String)
  | failed
  | below (name bound : String)
  | reaches (name bound : String)
deriving DecidableEq, Repr

def Condition.source : Condition → String
  | .token word same => (if same then "" else "NOT ") ++ s!"\"%~1\" == \"{word}\""
  | .variable name value same => (if same then "" else "NOT ") ++ s!"\"%{name}%\" == \"{value}\""
  | .defined name => s!"defined {name}"
  | .failed => "errorlevel 1"
  | .below name bound => s!"%{name}% LSS {bound}"
  | .reaches name bound => s!"%{name}% GEQ {bound}"

inductive Statement where
  | line (text : String)
  | authored (text : String)
  | comment (text : String)
  | label (name : String)
  | assign (name value : String)
  | assignIf (condition : Condition) (name value : String)
  | jumpIf (condition : Condition) (target : String)
  | failIf (condition : Condition) (message : String)
  | call (routine : String) (args : List String)
  | question (name : String) (text : String) (hidden : Bool)
  | findNonNumeral (name : String)
deriving DecidableEq, Repr

namespace Statement

def lines : Statement → List String
  | .line text => [text]
  | .authored text => [text]
  | .comment text => [s!": {text}"]
  | .label name => [s!":{name}"]
  | .assign name value => [s!"set \"{name}={value}\""]
  | .assignIf condition name value => [s!"if {condition.source} set \"{name}={value}\""]
  | .jumpIf condition target => [s!"if {condition.source} goto {target}"]
  | .failIf condition message => [s!"if {condition.source} {Text.joinLines (fail message)}"]
  | .call routine args => Batch.call routine args
  | .question name text hidden => if hidden then hiddenPrompt text name else prompt text name
  | .findNonNumeral name =>
      ["set \"non_numeric=\"",
       s!"for /f \"delims=-0123456789\" %%i in (\"%{name}%\") do set \"non_numeric=%%i\"",
       s!"if \"%{name}%\" == \"\" set \"non_numeric=1\""]

def label? : Statement → Option String
  | .label name => some name
  | _ => none

def target? : Statement → Option String
  | .jumpIf _ target => some target
  | _ => none

end Statement

def statementLines (statements : List Statement) : List String :=
  statements.flatMap Statement.lines

structure Routine where
  name : String
  description : String
  code : String
deriving DecidableEq, Repr

namespace Routine

def ofLines (name description : String) (lines : List String) : Routine :=
  { name, description, code := Text.joinLines lines }

/-- A run that falls into a routine jumps over it unless it was called. -/
def source (routine : Routine) : String :=
  Text.terminated [
    s!": {routine.description}",
    s!":func_{routine.name}",
    s!"if NOT \"%func%\" == \"{routine.name}\" goto end_func_{routine.name}",
    Text.trimEnd routine.code,
    "exit /b",
    s!":end_func_{routine.name}"]

end Routine

end ShellMenu.Batch
