import ShellMenu.Batch.Routines

namespace ShellMenu.Batch

/-- Definitions first, then the routines, and at last the lines that start the main menu. -/
structure Script where
  opening : String
  routines : List Routine
  closing : String

def routinesSource (routines : List Routine) : String :=
  String.join (routines.map Routine.source)

def Script.source (script : Script) : String :=
  script.opening ++ routinesSource script.routines ++ script.closing

def firstLine : String := "@echo off & setlocal EnableDelayedExpansion"

def variablesSource : String :=
  Text.terminated ([": Variables"]
    ++ Variables.batch.map fun (name, value) => s!"set \"{name}={value}\"")

/-- Runs one command instead of the menu when there is one to run. -/
def closingSource (mainMenu : String) : String :=
  Text.terminated ([
    ": Run a single command when invoked with arguments or c=<command>,<args...>",
    "if NOT \"%~1\" == \"\" goto run_arguments",
    "if \"%c%\" == \"\" goto interactive",
    "set \"parts=%c:,= %\"",
    "goto dispatch",
    ":run_arguments",
    "set \"parts=%*\"",
    ":dispatch"]
    ++ call (processName mainMenu) ["%parts%"]
    ++ ["exit /b", ":interactive"] ++ call mainMenu []
    ++ [":cleanup", "cls", "exit /b 0"])

def script (spec : Spec) (fragments : Fragments) (renderer : Banner.Renderer) : Result Script := do
  spec.checkPlans fragments
  let plans := spec.plans .batch fragments
  let auth ← spec.auth.methods.mapM authRoutine
  let included ← plans.mapM (fragmentRoutines fragments)
  let menus ← plans.mapM (menuRoutines renderer spec.levels)
  return { opening := firstLine ++ "\n" ++ variablesSource
           routines := errorRoutine :: auth ++ included.flatten ++ menus.flatten
           closing := closingSource spec.mainMenu }

end ShellMenu.Batch
