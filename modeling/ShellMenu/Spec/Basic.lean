import ShellMenu.Dialect
import ShellMenu.Json.Access
import ShellMenu.Text.Case

/-
  A described command line: menus of commands, their arguments, and the access levels that some
  commands ask for. Members that a description may leave out are optional, and those that the
  scripts only print keep the value they were given.
-/

namespace ShellMenu

structure Arg where
  name : String
  fallback : Option Json := none
  minimum : Option Json := none
  maximum : Option Json := none
  promptMessage : Option Json := none
  hidden : Bool := false

namespace Arg

/-- In square brackets when the argument may be left out. -/
def placeholder (arg : Arg) : String :=
  if arg.fallback.isSome then s!"[{arg.name}]" else s!"<{arg.name}>"

def hasBounds (arg : Arg) : Bool :=
  arg.minimum.isSome || arg.maximum.isSome

def checkBounds (arg : Arg) : Result Unit :=
  (arg.minimum.toList ++ arg.maximum.toList).forM fun bound => discard bound.shown

def promptLabel (arg : Arg) : String :=
  match arg.promptMessage with
  | some message => if message.isSomething then message.display else Text.capitalize arg.name
  | none => Text.capitalize arg.name

def promptText (arg : Arg) : String :=
  s!"{arg.promptLabel}: "

/-- A message that is something has to be text. -/
def promptIsText (arg : Arg) : Bool :=
  match arg.promptMessage with
  | some message => message.isText || !message.isSomething
  | none => true

def prompt (arg : Arg) : Result String :=
  if arg.promptIsText then .ok arg.promptText else breaking .notAPiece

end Arg

/-- A body written in the description itself. -/
inductive Inline where
  | single (text : String)
  | multi (lines : List String)
deriving DecidableEq, Repr

def Inline.lines : Inline → List String
  | .single text => [text]
  | .multi lines => lines

/-- The commands that every menu has. -/
inductive Builtin where
  | clear
  | exit
  | help
  | auth
  | catchAll
deriving DecidableEq, Repr

def Builtin.name : Builtin → String
  | .clear => "clear"
  | .exit => "exit"
  | .help => "help"
  | .auth => "auth"
  | .catchAll => "*"

structure Command where
  name : String
  description : String
  aliases : List Json := []
  args : List Arg := []
  access : Option Json := none
  visible : Option Json := none
  script : Option Json := none
  bashBody : Option Inline := none
  batchBody : Option Inline := none
  builtin : Option Builtin := none

namespace Command

/-- The words that stand for the command. -/
def names (command : Command) : List String :=
  command.name :: command.aliases.map Json.display

def namesAreText (command : Command) : Bool :=
  command.aliases.all Json.isText

def inline (command : Command) : Dialect → Option Inline
  | .bash => command.bashBody
  | .batch => command.batchBody

def isCatchAll (command : Command) : Bool :=
  command.builtin = some .catchAll

/-- Only an explicit `false` hides a command. -/
def isHidden (command : Command) : Bool :=
  match command.visible with
  | some (.bool false) => true
  | _ => false

end Command

structure AuthMethod where
  level : Int
  kind : Json
  digest : String

namespace AuthMethod

/-- Before the higher levels; a method for the same level makes way. -/
def insertInto (method : AuthMethod) : List AuthMethod → List AuthMethod
  | [] => [method]
  | other :: rest =>
      if method.level < other.level then method :: other :: rest
      else if method.level = other.level then method :: rest
      else other :: insertInto method rest

theorem mem_insertInto {method found : AuthMethod} {methods : List AuthMethod}
    (present : found ∈ insertInto method methods) : found = method ∨ found ∈ methods := by
  induction methods with
  | nil => simpa [insertInto] using present
  | cons other rest ih =>
      simp only [insertInto] at present
      split at present
      · simpa using present
      · split at present
        · simp only [List.mem_cons] at present
          rcases present with same | later
          · exact Or.inl same
          · exact Or.inr (List.mem_cons_of_mem _ later)
        · simp only [List.mem_cons] at present
          rcases present with same | later
          · exact Or.inr (same ▸ List.mem_cons_self)
          · exact (ih later).imp_right (List.mem_cons_of_mem _)

theorem pairwise_insertInto (method : AuthMethod) {methods : List AuthMethod}
    (ascending : methods.Pairwise (·.level < ·.level)) :
    (insertInto method methods).Pairwise (·.level < ·.level) := by
  induction methods with
  | nil => simp [insertInto]
  | cons other rest ih =>
      obtain ⟨below, restAscending⟩ := List.pairwise_cons.1 ascending
      simp only [insertInto]
      split
      · next lower =>
          refine List.pairwise_cons.2 ⟨?_, ascending⟩
          intro later present
          rcases List.mem_cons.1 present with same | deeper
          · exact same ▸ lower
          · exact Int.lt_trans lower (below later deeper)
      · split
        · next equal =>
            exact List.pairwise_cons.2 ⟨fun later present => equal ▸ below later present,
              restAscending⟩
        · next notLower notEqual =>
            refine List.pairwise_cons.2 ⟨?_, ih restAscending⟩
            intro later present
            rcases mem_insertInto present with same | deeper
            · subst same
              omega
            · exact below later deeper

end AuthMethod

/-- One method for each access level, the lower levels first. -/
structure AuthTable where
  methods : List AuthMethod := []
  ascending : methods.Pairwise (·.level < ·.level) := by simp

namespace AuthTable

def insert (table : AuthTable) (method : AuthMethod) : AuthTable :=
  ⟨method.insertInto table.methods, method.pairwise_insertInto table.ascending⟩

/-- A later method replaces an earlier one for the same level. -/
def ofList (methods : List AuthMethod) : AuthTable :=
  methods.foldl insert {}

def levels (table : AuthTable) : List Int :=
  table.methods.map AuthMethod.level

end AuthTable

inductive Splash where
  | plain (text : String)
  | art (text font : Json) (color : Option Json)

structure Menu where
  name : String
  header : Option Json := none
  lead : Json := .str "> "
  splash : Option Splash := none
  commands : List Command := []

structure Spec where
  title : Json
  uri : Json
  description : Option Json
  mainMenu : String
  menus : List Menu
  auth : AuthTable

namespace Spec

def menuNames (spec : Spec) : List String :=
  spec.menus.map Menu.name

def levels (spec : Spec) : List Int :=
  spec.auth.levels

def menu? (spec : Spec) (name : String) : Option Menu :=
  spec.menus.find? (·.name = name)

end Spec

end ShellMenu
