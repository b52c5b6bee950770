import ShellMenu.Bash.Routines

namespace ShellMenu.Bash

/-- Definitions first, then the routines, and at last the lines that start the main menu. -/
structure Script where
  opening : String
  routines : List Routine
  closing : String

def routinesSource (routines : List Routine) : String :=
  String.join (routines.map Routine.source)

def Script.source (script : Script) : String :=
  script.opening ++ routinesSource script.routines ++ script.closing

def firstLine : String := "#!/usr/bin/env bash"

def variablesSource : String :=
  Text.terminated (["# Variables"] ++ Variables.bash.map (fun (name, value) => s!"{name}={value}")
    ++ ["if \x7b : < /dev/tty; \x7d 2> /dev/null;", "then", "    INPUT_DEVICE=/dev/tty", "else",
        "    INPUT_DEVICE=/dev/stdin", "fi"])

/-- Runs one command instead of the menu when there is one to run. -/
def closingSource (mainMenu : String) : String :=
  Text.terminated [
    "",
    "# Run a single command when invoked with arguments or as c=<command>,<args...>",
    "if [ \"$#\" -gt 0 ];",
    "then",
    s!"    {processName mainMenu} \"$*\"",
    "    exit",
    "fi",
    "if [ \"$c\" != \"\" ];",
    "then",
    "    IFS=',' read -ra parts <<< \"$c\"",
    s!"    {processName mainMenu} \"$\x7bparts[*]\x7d\"",
    "    exit",
    "fi",
    "",
    mainMenu]

def script (spec : Spec) (fragments : Fragments) (renderer : Banner.Renderer) : Result Script := do
  spec.checkPlans fragments
  let plans := spec.plans .bash fragments
  let auth ← spec.auth.methods.mapM authRoutine
  let included ← plans.mapM (fragmentRoutines fragments)
  let menus ← plans.mapM (menuRoutines renderer)
  return { opening := firstLine ++ "\n" ++ variablesSource
           routines := errorRoutine :: auth ++ included.flatten ++ menus.flatten
           closing := closingSource spec.mainMenu }

end ShellMenu.Bash
