import ShellMenu.Text.Integer
import ShellMenu.Text.Quoted

/-
  Options on a command line. A long option may be cut short as long as it stays unambiguous, and
  its value may follow an equals sign or be the next word.
-/

namespace ShellMenu.CommandLine

/-- What an option takes. -/
inductive Taking where
  | nothing
  | text
  | integer
  | oneOf (choices : List String)
deriving DecidableEq, Repr

structure Switch where
  spellings : List String
  taking : Taking
deriving DecidableEq, Repr

/-- All spellings, as messages show them. -/
def Switch.shown (switch : Switch) : String :=
  "/".intercalate switch.spellings

def helpSwitch : Switch := ⟨["-h", "--help"], .nothing⟩

/-- The options of a command and the name of the word it takes besides, if any. -/
structure Grammar where
  program : String
  usage : String
  switches : List Switch
  operand : Option String := none

/-- Every spelling with its option, in the order of the grammar. -/
def Grammar.spellings (grammar : Grammar) : List (String × Switch) :=
  grammar.switches.flatMap fun switch => switch.spellings.map fun spelling => (spelling, switch)

/-- Why the words are not taken: help was asked for, or they are wrong. -/
inductive Refusal where
  | help (usage : String)
  | wrong (program usage message : String)
deriving DecidableEq, Repr

def Grammar.refuse {α : Type} (grammar : Grammar) (message : String) : Except Refusal α :=
  .error (.wrong grammar.program grammar.usage message)

/-- A value that is part of the word: after an equals sign, or right after an option of one
letter. -/
structure Attached where
  value : String
  toLetter : Bool
deriving DecidableEq, Repr

/-- What a word is to a grammar. -/
inductive Reading where
  | operand
  | dashes
  | known (switch : Switch) (attached : Option Attached)
  | unknown
deriving DecidableEq, Repr

structure Word where
  raw : String
  reading : Reading
deriving DecidableEq, Repr

/-! ## Reading words -/

def isDigit (c : Char) : Bool :=
  (Text.digitValue? c).isSome

/-- Digits, with at most one point among them and a digit after it. -/
def isUnsigned (chars : List Char) : Bool :=
  match chars.dropWhile isDigit with
  | [] => !chars.isEmpty
  | '.' :: rest => !rest.isEmpty && rest.all isDigit
  | _ => false

/-- A word such as `-1` is no option. -/
def isNegativeNumber (text : String) : Bool :=
  match text.toList with
  | '-' :: rest =>
      isUnsigned rest || (rest.getLast? = some '\n' && isUnsigned rest.dropLast)
  | _ => false

/-- The part before the first equals sign, and what is attached after it. -/
def splitEquals (text : String) : String × Option Attached :=
  let chars := text.toList
  let name := chars.takeWhile (· ≠ '=')
  match chars.drop name.length with
  | [] => (text, none)
  | _ :: value => (String.ofList name, some ⟨String.ofList value, !Text.startsWith text "--"⟩)

/-- The options that a word may be short for. -/
def Grammar.candidates (grammar : Grammar) (text : String) :
    List (String × Switch × Option Attached) :=
  match text.toList with
  | '-' :: '-' :: _ =>
      let (name, attached) := splitEquals text
      (grammar.spellings.filter fun entry => Text.startsWith entry.1 name).map fun entry =>
        (entry.1, entry.2, attached)
  | '-' :: c :: rest =>
      grammar.spellings.filterMap fun entry =>
        if entry.1.toList = ['-', c] then some (entry.1, entry.2, some ⟨String.ofList rest, true⟩)
        else if Text.startsWith entry.1 text then some (entry.1, entry.2, none)
        else none
  | _ => []

def Grammar.read (grammar : Grammar) (text : String) : Except Refusal Reading :=
  match text.toList with
  | '-' :: _ :: _ =>
      match grammar.spellings.lookup text with
      | some switch => .ok (.known switch none)
      | none =>
          let (name, attached) := splitEquals text
          match attached, grammar.spellings.lookup name with
          | some attached, some switch => .ok (.known switch (some attached))
          | _, _ =>
              match grammar.candidates text with
              | [(_, switch, attached)] => .ok (.known switch attached)
              | [] =>
                  if isNegativeNumber text || Text.hasChar text ' ' then .ok .operand
                  else .ok .unknown
              | several =>
                  let spellings := ", ".intercalate (several.map Prod.fst)
                  grammar.refuse s!"ambiguous option: {text} could match {spellings}"
  | _ => .ok .operand

/-- Two dashes end the options. -/
def Grammar.readAll (grammar : Grammar) : List String → Except Refusal (List Word)
  | [] => .ok []
  | "--" :: rest => .ok (⟨"--", .dashes⟩ :: rest.map fun text => ⟨text, .operand⟩)
  | text :: rest => do
      let reading ← grammar.read text
      let words ← grammar.readAll rest
      return ⟨text, reading⟩ :: words

/-! ## Taking words -/

/-- What was found: the options, last one first, with their values, the operand, and the words
that nobody wanted. -/
structure Found where
  values : List (String × Option String) := []
  operand : Option String := none
  extras : List String := []
deriving DecidableEq, Repr

/-- By the last spelling of the option; a later value hides an earlier one. -/
def Found.value? (found : Found) (spelling : String) : Option String :=
  (found.values.lookup spelling).join

def Found.has (found : Found) (spelling : String) : Bool :=
  (found.values.lookup spelling).isSome

def Found.extra (found : Found) (raw : String) : Found :=
  { found with extras := found.extras ++ [raw] }

def Taking.complaint? (taking : Taking) (value : String) : Option String :=
  match taking with
  | .nothing | .text => none
  | .integer =>
      if (Text.integer? value).isSome then none
      else some s!"invalid int value: {Text.quoted value}"
  | .oneOf choices =>
      let shown := ", ".intercalate (choices.map Text.quoted)
      if choices.contains value then none
      else some s!"invalid choice: {Text.quoted value} (choose from {shown})"

def Grammar.complain {α : Type} (grammar : Grammar) (switch : Switch) (message : String) :
    Except Refusal α :=
  grammar.refuse s!"argument {switch.shown}: {message}"

def Found.put (found : Found) (switch : Switch) (value : Option String) : Found :=
  { found with values := (switch.spellings.getLast?.getD "", value) :: found.values }

/-- Two dashes for a value are no value, which is nothing to complain about. -/
def Grammar.store (grammar : Grammar) (found : Found) (switch : Switch) (value : String) :
    Except Refusal Found :=
  if value = "--" then .ok (found.put switch none)
  else
    match switch.taking.complaint? value with
    | some complaint => grammar.complain switch complaint
    | none => .ok (found.put switch (some value))

/-- What is attached to the letter for help: more such letters, and something that it ignores. -/
def helpTail : List Char → List Char
  | [] => []
  | c :: rest => if c = 'h' then helpTail rest else c :: rest

/-- The help option asks for help, unless something is attached that it ignores. -/
def Grammar.askHelp (grammar : Grammar) (attached : Option Attached) : Except Refusal Found :=
  match attached with
  | none => .error (.help grammar.usage)
  | some ⟨value, toLetter⟩ =>
      let ignored := if toLetter then String.ofList (helpTail value.toList) else value
      if toLetter && !Text.isEmpty value && Text.isEmpty ignored then
        .error (.help grammar.usage)
      else grammar.complain helpSwitch s!"ignored explicit argument {Text.quoted ignored}"

/-- An option without a value. -/
def Grammar.raise (grammar : Grammar) (found : Found) (switch : Switch)
    (attached : Option Attached) : Except Refusal Found :=
  if switch = helpSwitch then grammar.askHelp attached
  else
    match attached with
    | none => .ok (found.put switch none)
    | some attached =>
        grammar.complain switch s!"ignored explicit argument {Text.quoted attached.value}"

/-- One word after the other. -/
def Grammar.take (grammar : Grammar) : Found → List Word → Except Refusal Found
  | found, [] => .ok found
  | found, ⟨raw, .unknown⟩ :: rest => grammar.take (found.extra raw) rest
  | found, ⟨_, .known switch attached⟩ :: rest =>
      if switch.taking = .nothing then do
        grammar.take (← grammar.raise found switch attached) rest
      else
        match attached, rest with
        | some attached, rest => do
            grammar.take (← grammar.store found switch attached.value) rest
        | none, ⟨value, .operand⟩ :: rest => do
            grammar.take (← grammar.store found switch value) rest
        | none, _ => grammar.complain switch "expected one argument"
  | found, ⟨raw, .dashes⟩ :: rest =>
      if grammar.operand.isSome && found.operand.isNone then
        match rest with
        | ⟨value, .operand⟩ :: rest => grammar.take { found with operand := some value } rest
        | rest => grammar.take (found.extra raw) rest
      else grammar.take (found.extra raw) rest
  | found, ⟨raw, .operand⟩ :: rest =>
      if grammar.operand.isSome && found.operand.isNone then
        let found := { found with operand := some raw }
        match rest with
        | ⟨_, .dashes⟩ :: rest => grammar.take found rest
        | rest => grammar.take found rest
      else grammar.take (found.extra raw) rest

/-- The operand has to be there. -/
def Grammar.parse (grammar : Grammar) (words : List String) : Except Refusal Found := do
  let found ← grammar.take {} (← grammar.readAll words)
  match grammar.operand, found.operand with
  | some name, none => grammar.refuse s!"the following arguments are required: {name}"
  | _, _ => return found

end ShellMenu.CommandLine
