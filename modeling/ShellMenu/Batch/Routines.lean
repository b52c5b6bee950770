import ShellMenu.Banner
import ShellMenu.Batch.Statement
import ShellMenu.Plan.Basic

/-
  The routines of the batch script: reporting an error, authenticating, one for each fragment, and
  three for each menu.
-/

namespace ShellMenu.Batch

def errorRoutine : Routine :=
  .ofLines "error" "The error function." ["echo !RED!Error: !errMsg!!RESET!"]

def keyFile : String := "%TEMP%\\shellforge_key.txt"

def authName (level : String) : String :=
  s!"auth_{level}"

def authLines (level digest : String) : List String :=
  ["where certutil >nul 2>nul"]
    ++ (Statement.failIf .failed "certutil was not found.").lines
    ++ hiddenPrompt "Key" "key"
    ++ ["set \"hashed_key=\"",
        s!"<nul set /p \"=!key!\" > \"{keyFile}\"",
        s!"for /f \"skip=1 delims=\" %%h in ('certutil -hashfile \"{keyFile}\" SHA1') do "
          ++ "if not defined hashed_key set \"hashed_key=%%h\"",
        s!"del \"{keyFile}\" >nul 2>nul",
        "if defined hashed_key set \"hashed_key=!hashed_key: =!\"",
        s!"if /i NOT \"!hashed_key!\" == \"{digest}\" {refusal}",
        s!"set \"AUTH_LEVEL={level}\"",
        s!"echo !GREEN!Authenticated to level {level} access.!RESET!",
        "exit /b 0"]
where
  refusal : String := Text.joinLines (fail "Invalid key.")

def levelRoutine (level : String) (kind : Json) (digest : String) : Result Routine :=
  if kind.string? = some "hash" then
    .ok (.ofLines (authName level) s!"Authenticate to level {level}." (authLines level digest))
  else failing (.unknownAuthType kind.display)

def authRoutine (method : AuthMethod) : Result Routine :=
  levelRoutine (toString method.level) method.kind method.digest

/-- The arguments come first, under the names that the fragment uses. -/
def fragmentLines (args : List Arg) (text : String) : List String :=
  (args.zipIdx 1).map (fun (arg, index) => s!"set \"{arg.name}=%~{index}\"")
    ++ [Text.trimEndNewlines (Text.fromCrlf text)]

def fragmentRoutines (fragments : Fragments) (plan : MenuPlan) : Result (List Routine) :=
  plan.fragments.mapM fun (command, script) => do
    let text ← fragments.read script
    return .ofLines (fragmentRoutine plan.name command.name) command.description
      (fragmentLines command.args text)

/-! ## Blocks -/

def skipHelp (menu : String) (level : Int) : String :=
  s!"skip_help_{menu}_{level}"

def helpStatements (plan : MenuPlan) : List Statement :=
  plan.help.flatMap fun part =>
    let shown := (echo (escape (Text.trimEndNewlines part.text))).map Statement.line
    if part.level = 0 then shown
    else
      let skip := skipHelp plan.name part.level
      .jumpIf (.variable "AUTH_LEVEL" (toString part.level) false) skip :: .line "echo."
        :: shown ++ [.label skip]

def argTests (arg : Arg) : List Statement :=
  (if arg.hasBounds then
    [.findNonNumeral arg.name,
     .failIf (.defined "non_numeric") s!"Arg '{arg.name}' must be a number."] else [])
    ++ (match arg.minimum with
      | some bound =>
          [.failIf (.below arg.name bound.display)
            s!"Arg '{arg.name}' must be at least {bound.display}."]
      | none => [])
    ++ (match arg.maximum with
      | some bound =>
          [.failIf (.reaches arg.name bound.display)
            s!"Arg '{arg.name}' must be less than {bound.display}."]
      | none => [])

/-- A hidden question shows the bare label. -/
def argSupply (arg : Arg) : Statement :=
  match arg.fallback with
  | some value => .assign arg.name (valueText value)
  | none => .question arg.name (if arg.hidden then arg.promptLabel else arg.promptText) arg.hidden

def argCheck (arg : Arg) (position : Nat) (label : String) : List Statement :=
  .assign arg.name s!"%~{position}" :: .jumpIf (.variable arg.name "" false) label :: argSupply arg
    :: .label label :: argTests arg

def hasArg (menu : String) (index : Nat) (arg : String) : String :=
  s!"has_arg_{menu}_{index}_{arg}"

/-- The first parameter is the command. -/
def argChecks (menu : String) (index : Nat) (args : List Arg) : List Statement :=
  if args.isEmpty then []
  else .comment "Argument validation."
    :: (args.zipIdx 2).flatMap fun (arg, position) =>
      argCheck arg position (hasArg menu index arg.name)

def authorized (menu : String) (index : Nat) : String :=
  s!"authorized_{menu}_{index}"

def gates (menu : String) (index : Nat) (access : Option Json) : List Statement :=
  match access with
  | none => []
  | some level =>
      let label := authorized menu index
      [.jumpIf (.variable "AUTH_LEVEL" level.display true) label,
       .call s!"auth_{level.display}" [], .line "if errorlevel 1 exit /b 1", .label label]

def authBody (levels : List String) : List Statement :=
  .assign "auth_known" "0"
    :: levels.map (fun level => .assignIf (.variable "level" level true) "auth_known" "1")
    ++ [.failIf (.variable "auth_known" "0" true) "Auth level %level% does not exist.",
        .call "auth_%level%" []]

/-- The catch-all command has no block: what no block takes falls through to the end. -/
def builtinBody (plan : MenuPlan) (levels : List Int) (name : String) :
    Builtin → Result (List Statement)
  | .clear => .ok [.call plan.name ["true"]]
  | .exit => .ok [.line "echo %RED%Exiting...%RESET%", .assign "exit" "1"]
  | .help => .ok (helpStatements plan)
  | .auth => .ok (authBody (levels.map toString))
  | .catchAll => failing (.unknownBuiltin name)

def bodyStatements (plan : MenuPlan) (levels : List Int) (planned : PlannedCommand) :
    Result (List Statement) :=
  let command := planned.command
  match planned.body with
  | .builtin builtin => builtinBody plan levels command.name builtin
  | .fragment _ =>
      .ok [.call (fragmentRoutine plan.name command.name)
        (command.args.map fun arg => s!"\"%{arg.name}%\"")]
  | .inline body => .ok (body.lines.map .authored)
  | .unsupported =>
      let platform := Dialect.platform .batch
      .ok ((error s!"The '{command.name}' command is not supported for {platform}.").map .line
        ++ [.line "exit /b 1"])

def endCommand (menu : String) (index : Nat) : String :=
  s!"end_command_{menu}_{index}"

def flagName (command : String) : String :=
  s!"is_command_{Escape.toIdentifier command}"

/-- Jumps past the block unless the token is one of the names. -/
def matcher (command : Command) (past : String) : List Statement :=
  if command.aliases.isEmpty then [.jumpIf (.token command.name false) past]
  else
    let flag := flagName command.name
    .assign flag "0" :: command.names.map (fun name => .assignIf (.token name true) flag "1")
      ++ [.jumpIf (.variable flag "0" true) past]

/-- What the process routine does for one command. -/
structure Block where
  description : String
  matcher : List Statement
  body : List Statement
  past : String

def Block.statements (block : Block) : List Statement :=
  .comment block.description :: block.matcher ++ block.body
    ++ [.line "exit /b", .label block.past]

def Block.source (block : Block) : String :=
  Text.joinLines (statementLines block.statements)

/-! ## What cannot be written -/

def checkPrompt (arg : Arg) : Result Unit :=
  if arg.promptIsText then .ok () else breaking (if arg.hidden then .notText else .notAPiece)

def checkArg (arg : Arg) : Result Unit := do
  if arg.fallback.isNone then checkPrompt arg
  arg.checkBounds

/-- What keeps a command from having a block, its body aside. -/
def checkBlock (planned : PlannedCommand) : Result Unit := do
  if planned.isSupported then planned.command.args.forM checkArg

/-- An unsupported command asks for nothing before it says so. -/
def block (plan : MenuPlan) (levels : List Int) (index : Nat) (planned : PlannedCommand) :
    Result Block := do
  let command := planned.command
  let past := endCommand plan.name index
  let checks := if planned.isSupported then
    gates plan.name index command.access ++ argChecks plan.name index command.args else []
  checkBlock planned
  let body ← bodyStatements plan levels planned
  return { description := command.description
           matcher := matcher command past
           body := checks ++ body
           past }

/-! ## Menus -/

def processName (menu : String) : String :=
  s!"process_{menu}"

def promptName (menu : String) : String :=
  s!"prompt_{menu}"

/-- The blocks are numbered by the place of their command in the table. -/
def blocks (plan : MenuPlan) (levels : List Int) : Result (List Block) :=
  (plan.commands.zipIdx.filter fun (planned, _) => !planned.command.isCatchAll).mapM
    fun (planned, index) => block plan levels index planned

def invalidCommand : List Statement :=
  .comment "Invalid command." :: (error "\"%~1\" is not a valid command.").map .line
    ++ [.line "exit /b 1"]

def processStatements (blocks : List Block) : List Statement :=
  blocks.flatMap Block.statements ++ invalidCommand

def processRoutine (plan : MenuPlan) (levels : List Int) : Result Routine := do
  let blocks ← blocks plan levels
  return .ofLines (processName plan.name) s!"Process a {plan.name} command."
    (statementLines (processStatements blocks))

def endSwitch (menu : String) : String :=
  s!"end_switch_{menu}"

def promptRoutine (plan : MenuPlan) : Routine :=
  .ofLines (promptName plan.name) s!"Create the {plan.name} prompt."
    (prompt plan.menu.lead.display "input"
      ++ [s!"if not defined input goto {endSwitch plan.name}"]
      ++ call (processName plan.name) ["%input%"]
      ++ [s!":{endSwitch plan.name}", "if \"%exit%\" == \"0\" ("]
      ++ indent (call (promptName plan.name) []) ++ [")"])

def headerLines (header : Option Json) : List String :=
  match header.filter Json.isSomething with
  | none => []
  | some header =>
      let ground := Placeholder.braced "BG_DARK_GREY"
      let reset := Placeholder.braced "RESET"
      [escape s!"echo {ground}{header.display}{reset}", "echo."]

def splashLines (splash : String) : List String :=
  if Text.isEmpty splash then [] else echo splash ++ ["echo."]

def menuRoutine (plan : MenuPlan) (splash : String) : Routine :=
  .ofLines plan.name s!"The {plan.name} menu."
    (["cls"] ++ headerLines plan.menu.header ++ splashLines splash
      ++ ["if \"%~1\" == \"true\" exit /b"] ++ call (promptName plan.name) [])

def menuRoutines (renderer : Banner.Renderer) (levels : List Int) (plan : MenuPlan) :
    Result (List Routine) := do
  let splash ← Banner.render escape renderer plan.menu.splash
  let process ← processRoutine plan levels
  let _ ← plan.menu.lead.piece
  return [process, promptRoutine plan, menuRoutine plan splash]

end ShellMenu.Batch
