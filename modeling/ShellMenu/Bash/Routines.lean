import ShellMenu.Banner
import ShellMenu.Bash.Statement
import ShellMenu.Plan.Basic

/-
  The routines of the bash script: reporting an error, authenticating, one for each fragment, and
  three for each menu.
-/

namespace ShellMenu.Bash

def errorRoutine : Routine :=
  .ofLines "error" "The error function." [s!"printf \"{red}Error: %s{reset}\\n\" \"$1\""]

def authName (level : String) : String :=
  s!"auth_{level}"

def authLines (level digest : String) : List String :=
  ["if ! command -v shasum &> /dev/null;", "then"]
    ++ indent [error "shasum was not found.", "return 1"] ++ ["fi"]
    ++ prompt "Key: " "key" true
    ++ ["hashed_key=\x60printf '%s' \"$key\" | shasum | awk '\x7bprint $1\x7d'\x60"]
    ++ rejectWhen s!"[ \"$hashed_key\" != \"{digest}\" ]" "Invalid key."
    ++ [s!"AUTH_LEVEL={level}", success s!"Authenticated to level {level} access.",
        "return 0"]

def levelRoutine (level : String) (kind : Json) (digest : String) : Result Routine :=
  if kind.string? = some "hash" then
    .ok (.ofLines (authName level) s!"Authenticate to level {level}." (authLines level digest))
  else failing (.unknownAuthType kind.display)

def authRoutine (method : AuthMethod) : Result Routine :=
  levelRoutine (toString method.level) method.kind method.digest

/-- The arguments come first, under the names that the fragment uses. -/
def fragmentLines (args : List Arg) (text : String) : List String :=
  (args.zipIdx 1).map (fun (arg, index) => s!"{arg.name}=${index}") ++ [Text.trimEndNewlines text]

def fragmentRoutines (fragments : Fragments) (plan : MenuPlan) : Result (List Routine) :=
  plan.fragments.mapM fun (command, script) => do
    let text ← fragments.read script
    return .ofLines (fragmentRoutine plan.name command.name) command.description
      (fragmentLines command.args text)

/-! ## Arms -/

def helpLines (sections : List HelpSection) : List String :=
  sections.flatMap fun part =>
    let text := printfEscape part.text
    if part.level = 0 then [s!"printf \"{text}\""]
    else [s!"if [ \"$AUTH_LEVEL\" == \"{part.level}\" ];", "then"]
      ++ indent [s!"printf \"\\n{text}\""] ++ ["fi"]

def argTests (arg : Arg) : List Statement :=
  (if arg.hasBounds then
    [.reject (.notNumeral arg.name) s!"Arg '{arg.name}' must be a number."] else [])
    ++ (match arg.minimum with
      | some bound =>
          [.reject (.below arg.name bound.display)
            s!"Arg '{arg.name}' must be at least {bound.display}."]
      | none => [])
    ++ (match arg.maximum with
      | some bound =>
          [.reject (.reaches arg.name bound.display)
            s!"Arg '{arg.name}' must be less than {bound.display}."]
      | none => [])

def argSupply (arg : Arg) : Supply :=
  match arg.fallback with
  | some value => .value (valueWord value)
  | none => .question arg.promptText arg.hidden

def argCheck (arg : Arg) (index : Nat) : List Statement :=
  .bind arg.name index :: .supply arg.name (argSupply arg) :: argTests arg

/-- The word at place zero is the command. -/
def argChecks (args : List Arg) : List Statement :=
  if args.isEmpty then []
  else .line "# Argument validation."
    :: (args.zipIdx 1).flatMap fun (arg, index) => argCheck arg index

def gates (access : Option Json) : List Statement :=
  match access with
  | some level => [.gate level.display]
  | none => []

def builtinBody (plan : MenuPlan) : Builtin → List String
  | .clear => [s!"{plan.name} true"]
  | .exit => ["clear", "exit 0"]
  | .help => helpLines plan.help
  | .auth =>
      ["if ! declare -F \"auth_$level\" > /dev/null;", "then",
       "    error \"Auth level $level does not exist.\"", "    return 1", "fi", "auth_$level"]
  | .catchAll => ["error \"\\\"$\x7bparts[0]\x7d\\\" is not a valid command.\"", "return 1"]

def fragmentCall (menu : String) (command : Command) : String :=
  let args := " ".intercalate (command.args.map fun arg => s!"\"${arg.name}\"")
  Text.trimEnd s!"{fragmentRoutine menu command.name} {args}"

def bodyStatements (plan : MenuPlan) (planned : PlannedCommand) : List Statement :=
  match planned.body with
  | .builtin builtin => (builtinBody plan builtin).map .line
  | .fragment _ => [.line (fragmentCall plan.name planned.command)]
  | .inline body => body.lines.map .authored
  | .unsupported =>
      let platform := Dialect.platform .bash
      [.line (error s!"The '{planned.command.name}' command is not supported for {platform}."),
       .line "return 1"]

def armPattern (command : Command) : ArmPattern :=
  if command.isCatchAll then .anything else .words command.names

/-- An unsupported command asks for nothing before it says so. -/
def arm (plan : MenuPlan) (planned : PlannedCommand) : Arm :=
  let command := planned.command
  let checks := if planned.isSupported then gates command.access ++ argChecks command.args else []
  { description := command.description
    pattern := armPattern command
    body := checks ++ bodyStatements plan planned }

/-! ## What cannot be written -/

def checkArg (arg : Arg) : Result Unit := do
  match arg.fallback with
  | some value => checkWord value
  | none => discard arg.prompt
  arg.checkBounds

def checkNames (command : Command) : Result Unit :=
  command.aliases.forM fun name => discard name.text

/-- What keeps a command from having an arm. -/
def checkArm (planned : PlannedCommand) : Result Unit := do
  checkNames planned.command
  if planned.isSupported then planned.command.args.forM checkArg

/-! ## Menus -/

def processName (menu : String) : String :=
  s!"process_{menu}"

def promptName (menu : String) : String :=
  s!"prompt_{menu}"

def arms (plan : MenuPlan) : List Arm :=
  plan.commands.map (arm plan)

def processRoutine (plan : MenuPlan) : Routine :=
  .ofLines (processName plan.name) s!"Process a {plan.name} command."
    (["IFS=' ' read -ra parts <<< \"$1\"", "case \"$\x7bparts[0]\x7d\" in"]
      ++ (arms plan).map Arm.source ++ ["esac"])

def promptRoutine (plan : MenuPlan) : Routine :=
  .ofLines (promptName plan.name) s!"Create the {plan.name} prompt."
    [s!"printf \"{printfEscape plan.menu.lead.display}\"",
     "if ! read -r input < \"$INPUT_DEVICE\";",
     "then",
     s!"    printf \"{reset}\\n\"",
     "    return 0",
     "fi",
     s!"printf \"{reset}\"",
     "if [ \"$input\" != \"\" ];",
     "then",
     s!"    {processName plan.name} \"$input\"",
     "fi",
     "",
     promptName plan.name]

def timeLine : String := "TIME=\x60date \"+%m/%d/%Y %H:%M:%S\"\x60"

def headerLines (header : Option Json) : List String :=
  match header.filter Json.isSomething with
  | none => []
  | some header =>
      let ground := Placeholder.braced "BG_DARK_GREY"
      [timeLine, s!"printf \"{ground}{printfEscape header.display}{reset}\\n\"", "echo \"\""]

def splashLines (splash : String) : List String :=
  if Text.isEmpty splash then [] else [s!"printf \"{splash}\"", "echo \"\""]

def menuRoutine (plan : MenuPlan) (splash : String) : Routine :=
  .ofLines plan.name s!"The {plan.name} menu."
    (["clear"] ++ headerLines plan.menu.header ++ splashLines splash
      ++ ["", "if [ \"$1\" != true ];", "then", s!"    {promptName plan.name}", "fi"])

/-- A header that is something, the names and the lead all have to be text. -/
def checkMenu (plan : MenuPlan) : Result Unit := do
  (plan.menu.header.filter Json.isSomething).forM fun header => discard header.text
  plan.commands.forM checkArm
  discard plan.menu.lead.text

def menuRoutines (renderer : Banner.Renderer) (plan : MenuPlan) : Result (List Routine) := do
  let splash ← Banner.render printfEscape renderer plan.menu.splash
  checkMenu plan
  return [processRoutine plan, promptRoutine plan, menuRoutine plan splash]

end ShellMenu.Bash
