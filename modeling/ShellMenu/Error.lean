import ShellMenu.Json.Reader
import ShellMenu.Path

/-
  What can go wrong. A fault is told to the user in words of its own; a breakdown is a document
  or a file system that the program was never promised.
-/

namespace ShellMenu

/-- A line and a column of a file, zero where they are not known. -/
structure FilePosition where
  line : Int := 0
  column : Int := 0
deriving DecidableEq, Repr

def FilePosition.ofText (position : Json.Position) : FilePosition :=
  { line := position.line, column := position.column }

/-- Why the file system refuses. -/
inductive FileProblem where
  | missing
  | alreadyExists
  | notDirectory
  | isDirectory
  | nameTooLong
deriving DecidableEq, Repr

def FileProblem.number : FileProblem → Nat
  | .missing => 2
  | .alreadyExists => 17
  | .notDirectory => 20
  | .isDirectory => 21
  | .nameTooLong => 36

def FileProblem.reason : FileProblem → String
  | .missing => "No such file or directory"
  | .alreadyExists => "File exists"
  | .notDirectory => "Not a directory"
  | .isDirectory => "Is a directory"
  | .nameTooLong => "File name too long"

def FileProblem.message (problem : FileProblem) (path : String) : String :=
  s!"[Errno {problem.number}] {problem.reason}: {Text.quoted path}"

inductive Fault where
  | told (message : String)
  | unknownDialect (name : String) (known : List String)
  | fragmentNotLoaded (file : String)
  | unknownBuiltin (name : String)
  | unsupportedSplash (value : Json)
  | unknownMenu (name : String) (known : List String)
  | unknownLevel (level : Int) (known : List Int)
  | unreadableJson (path : String) (problem : FileProblem)
  | unreadableFile (path : String) (problem : FileProblem)
  | build (name reason : String)
  | missingFont (font : String)
  | unknownColor (color : String)
  | unknownAuthType (kind : String)
  | notFound (path : String)
  | inFile (name reason path : String) (position : FilePosition)
  | invalidSchema (path : String) (problems : List String)
  | invalidSyntax (path reason : String) (position : FilePosition)

namespace Fault

/-- The first problem speaks for all of them. -/
def schemaReason : List String → String
  | [] => "Reason Unknown"
  | problem :: _ => if Text.isEmpty problem then "Reason Unknown" else problem

/-- A build fault has a name and a reason. -/
def named? : Fault → Option (String × String)
  | .build name reason => some (name, reason)
  | .missingFont font => some ("FontNotFound", s!"Figlet font '{font}' is not available.")
  | .unknownColor color => some ("InvalidColor", s!"Splash color '{color}' is not a known color.")
  | .unknownAuthType kind => some ("InvalidAuthType", s!"Auth type '{kind}' is invalid.")
  | .notFound path =>
      let name := if Text.isEmpty (Path.ofText path).suffix then "DirectoryNotFound" else "FileNotFound"
      some (name, s!"'{path}' does not exist.")
  | .inFile name reason _ _ => some (name, reason)
  | .invalidSchema _ problems => some ("InvalidJSONSchema", schemaReason problems)
  | .invalidSyntax _ reason _ => some ("InvalidJSONSyntax", reason)
  | _ => none

/-- The place that a fault in a file points to. -/
def place? : Fault → Option (String × FilePosition)
  | .inFile _ _ path position => some (path, position)
  | .invalidSchema path _ => some (path, {})
  | .invalidSyntax path _ position => some (path, position)
  | _ => none

def listed (names : List String) : String :=
  ", ".intercalate names

/-- The words of a fault that has no name. -/
def plainMessage : Fault → String
  | .told message => message
  | .unknownDialect name known =>
      s!"Unknown backend '{name}'. Known backends: {listed known}"
  | .fragmentNotLoaded file => s!"Script fragment '{file}' was not loaded for this build."
  | .unknownBuiltin name => s!"Unknown builtin command '{name}'."
  | .unsupportedSplash value => s!"Unsupported splash value: {value.literal}"
  | .unknownMenu name known => s!"Unknown menu '{name}'. Known menus: {listed known}"
  | .unknownLevel level known =>
      let levels := if known.isEmpty then "none" else listed (known.map toString)
      s!"Unknown auth level '{level}'. Known levels: {levels}"
  | .unreadableJson path problem =>
      s!"Unable to read JSON file '{path}': {problem.message path}"
  | .unreadableFile path problem => s!"Unable to read file '{path}': {problem.message path}"
  | _ => ""

def message (fault : Fault) : String :=
  match fault.named?, fault.place? with
  | some (name, reason), some (path, position) =>
      s!"::error file={path},line={position.line},col={position.column}::{name}: {reason}"
  | some (name, reason), none => s!"{name}: {reason}"
  | none, _ => fault.plainMessage

end Fault

inductive Breakdown where
  | missingMember (name : String)
  | malformedInteger (text : String)
  | longNumeral
  | notANumber
  | beyondRange
  | notAnObject
  | notIndexable
  | incomparable
  | notAKey
  | notText
  | notAPiece
  | indexOutOfRange
  | zeroStride
  | nulInPath
  | tooDeep
  | notEncodable
  | notUtf8 (path : String)
  | refused (path : String) (problem : FileProblem)
deriving DecidableEq, Repr

inductive Error where
  | fault (fault : Fault)
  | breakdown (breakdown : Breakdown)

abbrev Result (α : Type) := Except Error α

def failing {α : Type} (fault : Fault) : Result α :=
  .error (.fault fault)

def breaking {α : Type} (breakdown : Breakdown) : Result α :=
  .error (.breakdown breakdown)

end ShellMenu
