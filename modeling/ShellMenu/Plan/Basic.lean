import ShellMenu.Escape
import ShellMenu.Fragments
import ShellMenu.Plan.Help

/-
  What a dialect makes of each menu: the body of every command and the help text of every level.
-/

namespace ShellMenu

inductive Body where
  | builtin (command : Builtin)
  | fragment (name : String)
  | inline (body : Inline)
  | unsupported
deriving DecidableEq, Repr

structure PlannedCommand where
  command : Command
  body : Body

structure HelpSection where
  level : Int
  text : String
deriving DecidableEq, Repr

structure MenuPlan where
  menu : Menu
  commands : List PlannedCommand
  help : List HelpSection

/-- The fragment that a command names, if it is at hand. -/
def Fragments.scriptOf? (fragments : Fragments) (command : Command) : Option String :=
  (command.script.bind Json.string?).filter fragments.has

/-- A fragment that is at hand wins over a body in the description. -/
def Command.resolve (command : Command) (dialect : Dialect) (fragments : Fragments) : Body :=
  match command.builtin with
  | some builtin => .builtin builtin
  | none =>
      match fragments.scriptOf? command with
      | some name => .fragment name
      | none =>
          match command.inline dialect with
          | some body => .inline body
          | none => .unsupported

/-- Only what can be looked up can name a fragment. -/
def Command.checkScript (command : Command) : Result Unit :=
  match command.builtin, command.script with
  | none, some script => if script.isKey then .ok () else breaking .notAKey
  | _, _ => .ok ()

def PlannedCommand.isSupported (planned : PlannedCommand) : Bool :=
  planned.body ≠ .unsupported

namespace MenuPlan

def name (plan : MenuPlan) : String := plan.menu.name

/-- The commands that run a fragment, with its name. -/
def fragments (plan : MenuPlan) : List (Command × String) :=
  plan.commands.filterMap fun planned =>
    match planned.body with
    | .fragment name => some (planned.command, name)
    | _ => none

/-- The commands that help shows at a level. -/
def listed (table : List Command) (fragments : Fragments) (level : Int) : List Command :=
  Help.listed table fragments.fileNames fragments.extension level

/-- A level above zero has a section only if it lists something. -/
def helpSections (menu : String) (table : List Command) (fragments : Fragments)
    (levels : List Int) : List HelpSection :=
  ⟨0, Help.render s!"Showing commands for the {menu} menu." (listed table fragments 0)⟩
    :: levels.filterMap fun level =>
      match listed table fragments level with
      | [] => none
      | commands => some ⟨level, Help.render s!"Auth level {level} commands." commands⟩

def ofMenu (menu : Menu) (levels : List Int) (dialect : Dialect) (fragments : Fragments) :
    MenuPlan :=
  let table := Table.ofMenu menu levels
  { menu
    commands := table.map fun command => ⟨command, command.resolve dialect fragments⟩
    help := helpSections menu.name table fragments levels }

/-- What keeps a menu from being planned. -/
def check (menu : Menu) (levels : List Int) (fragments : Fragments) : Result Unit := do
  let table := Table.ofMenu menu levels
  table.forM Command.checkScript
  (0 :: levels).forM fun level => Help.check (listed table fragments level)

end MenuPlan

def Spec.plans (spec : Spec) (dialect : Dialect) (fragments : Fragments) : List MenuPlan :=
  spec.menus.map fun menu => MenuPlan.ofMenu menu spec.levels dialect fragments

def Spec.checkPlans (spec : Spec) (fragments : Fragments) : Result Unit :=
  spec.menus.forM fun menu => MenuPlan.check menu spec.levels fragments

/-- The routine that holds the fragment of a command. -/
def fragmentRoutine (menu command : String) : String :=
  s!"fragment_{Escape.toIdentifier menu}_{Escape.toIdentifier command}"

/-- The declared commands that a dialect has no body for. -/
def Spec.unsupported (spec : Spec) (dialect : Dialect) (fragments : Fragments) :
    List (String × String) :=
  spec.menus.flatMap fun menu =>
    (menu.commands.filter fun command => command.resolve dialect fragments = .unsupported).map
      fun command => (menu.name, command.name)

end ShellMenu
