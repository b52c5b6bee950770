import ShellMenu.Batch.Routines
import ShellMenu.Proofs.Bash.Word
import ShellMenu.Proofs.Text.Reading
import ShellMenu.Schema.Basic

/-
  How the scripts check an argument. Each dialect has a syntax of its own for the tests, their
  messages and the default value; read back from what is written, the checks are the same.
-/

namespace ShellMenu

/-- Why a value is turned down. A bound is the text that the value is compared with. -/
inductive Reason where
  | notANumber
  | below (bound : String)
  | reaches (bound : String)
deriving DecidableEq, Repr

structure Refusal where
  reason : Reason
  message : String
deriving DecidableEq, Repr

/-- Where a value comes from when none was passed. -/
inductive Fallback where
  | assigned (text : String)
  | asked (hidden : Bool)
deriving DecidableEq, Repr

structure ArgCheck where
  fallback : Fallback
  refusals : List Refusal
deriving DecidableEq, Repr

def Arg.check (arg : Arg) : ArgCheck where
  fallback :=
    match arg.fallback with
    | some value => .assigned (Batch.valueText value)
    | none => .asked arg.hidden
  refusals :=
    (if arg.hasBounds then [⟨.notANumber, s!"Arg '{arg.name}' must be a number."⟩] else [])
      ++ (arg.minimum.toList.map fun bound =>
        ⟨.below bound.display, s!"Arg '{arg.name}' must be at least {bound.display}."⟩)
      ++ arg.maximum.toList.map fun bound =>
        ⟨.reaches bound.display, s!"Arg '{arg.name}' must be less than {bound.display}."⟩

/-! ## Bash -/

namespace Bash

/-- A condition, and what is done if it holds. -/
def conditional? : List String → Option (String × List String)
  | [] => none
  | first :: rest => do
      let condition ← Text.between? "if " ";" first
      let inside ← ["then"].isPrefixOf? rest
      let body ← ["fi"].isSuffixOf? inside
      return (condition, ← body.mapM (Text.between? "    " ""))

def limit? : List Char → Option Reason
  | '-' :: 'l' :: 't' :: ' ' :: '"' :: bound => some (.below (String.ofList bound))
  | '-' :: 'g' :: 'e' :: ' ' :: '"' :: bound => some (.reaches (String.ofList bound))
  | _ => none

def reason? (name condition : String) : Option Reason :=
  if condition = s!"! [[ \"${name}\" =~ ^-?[0-9]+$ ]]" then some .notANumber
  else do limit? (← Text.between? s!"[ \"${name}\" " "\" ]" condition).toList

def refusal? (name : String) (lines : List String) : Option Refusal := do
  let (condition, body) ← conditional? lines
  let reason ← reason? name condition
  match body with
  | [report, "return 1"] => do
      let quoted ← Text.between? "error " "" report
      return ⟨reason, ← word? quoted⟩
  | _ => none

def fallback? (name : String) (lines : List String) : Option Fallback := do
  let (condition, body) ← conditional? lines
  if condition = s!"[ \"${name}\" == \"\" ]" then
    match body with
    | [line] => do
        let quoted ← Text.between? s!"{name}=" "" line
        return .assigned (← word? quoted)
    | _ :: ask :: _ => do
        match ← Text.between? "read " s!" {name} < \"$INPUT_DEVICE\"" ask with
        | "-r" => some (.asked false)
        | "-r -s" => some (.asked true)
        | _ => none
    | [] => none
  else none

/-- How the variable of an argument is checked: it is bound, given a value if it has none, and
tested. -/
def readCheck? (name : String) : List Statement → Option ArgCheck
  | bound :: supply :: tests => do
      let _ ← bound.lines.head?.bind (Text.between? s!"{name}=" "")
      let fallback ← fallback? name supply.lines
      return ⟨fallback, ← tests.mapM fun test => refusal? name test.lines⟩
  | _ => none

theorem mapM_indent (lines : List String) :
    (indent lines).mapM (Text.between? "    " "") = some lines := by
  simpa [indent] using Text.mapM_between? "    " "" lines

theorem conditional?_eq (condition : String) (body : List String) :
    conditional? (["if " ++ condition ++ ";", "then"] ++ indent body ++ ["fi"]) =
      some (condition, body) := by
  have first : Text.between? "if " ";" ("if " ++ condition ++ ";") = some condition :=
    Text.between?_append "if " ";" condition
  have inside : ["fi"].isSuffixOf? (indent body ++ ["fi"]) = some (indent body) :=
    List.isSuffixOf?_eq_some_iff_append_eq.2 rfl
  simp [conditional?, first, inside, mapM_indent, List.isPrefixOf?]

theorem conditional?_reject (test : Test) (message : String) :
    conditional? (Statement.reject test message).lines =
      some (test.condition, [error message, "return 1"]) :=
  conditional?_eq test.condition [error message, "return 1"]

theorem conditional?_supply (name : String) (source : Supply) :
    conditional? (Statement.supply name source).lines =
      some (s!"[ \"${name}\" == \"\" ]", source.lines name) := by
  have asked : s!"if [ \"${name}\" == \"\" ];" = "if " ++ s!"[ \"${name}\" == \"\" ]" ++ ";" := by
    simp [toString, ← String.toList_inj]
  rw [Statement.lines, asked]
  exact conditional?_eq s!"[ \"${name}\" == \"\" ]" (source.lines name)

theorem reason?_notNumeral (name : String) :
    reason? name (Test.notNumeral name).condition = some .notANumber :=
  if_pos rfl

theorem reason?_limit (name comparison : String) :
    reason? name (s!"[ \"${name}\" " ++ comparison ++ "\" ]") = limit? comparison.toList := by
  have other : s!"[ \"${name}\" " ++ comparison ++ "\" ]" ≠
      s!"! [[ \"${name}\" =~ ^-?[0-9]+$ ]]" := by
    intro same
    simpa [toString] using congrArg (·.toList.head?) same
  rw [reason?, if_neg other, Text.between?_append]
  rfl

theorem reason?_below (name bound : String) :
    reason? name (Test.below name bound).condition = some (.below bound) := by
  have split : (Test.below name bound).condition =
      s!"[ \"${name}\" " ++ ("-lt \"" ++ bound) ++ "\" ]" := by
    simp [Test.condition, toString, ← String.toList_inj]
  rw [split, reason?_limit]
  simp [limit?]

theorem reason?_reaches (name bound : String) :
    reason? name (Test.reaches name bound).condition = some (.reaches bound) := by
  have split : (Test.reaches name bound).condition =
      s!"[ \"${name}\" " ++ ("-ge \"" ++ bound) ++ "\" ]" := by
    simp [Test.condition, toString, ← String.toList_inj]
  rw [split, reason?_limit]
  simp [limit?]

theorem refusal?_reject {name : String} {test : Test} {reason : Reason}
    (read : reason? name test.condition = some reason) (message : String) :
    refusal? name (Statement.reject test message).lines = some ⟨reason, message⟩ := by
  have report : Text.between? "error " "" (error message) = some (doubleQuote message) :=
    Text.between?_start "error " (doubleQuote message)
  rw [refusal?, conditional?_reject]
  simp [read, report, word?_doubleQuote]

/-- A default value that is no collection reads as its text. -/
theorem word?_valueWord {value : Json} (scalar : Schema.isScalar value = true) :
    word? (valueWord value) = some (Batch.valueText value) := by
  cases value with
  | str text =>
      rw [valueWord_str]
      exact word?_quoteWord text
  | int value => exact word?_integer value
  | float value => exact word?_binary64 value
  | bool value =>
      cases value with
      | false => decide
      | true => decide
  | _ => cases scalar

theorem fallback?_supply (arg : Arg)
    (scalar : ∀ value, arg.fallback = some value → Schema.isScalar value = true) :
    fallback? arg.name (Statement.supply arg.name (argSupply arg)).lines =
      some arg.check.fallback := by
  rw [fallback?, conditional?_supply]
  cases given : arg.fallback with
  | some value =>
      have line : Text.between? s!"{arg.name}=" "" s!"{arg.name}={valueWord value}" =
          some (valueWord value) := Text.between?_start s!"{arg.name}=" (valueWord value)
      have read := word?_valueWord (scalar value given)
      simp [argSupply, Arg.check, given, Supply.lines, line, read]
  | none =>
      have ask (flags : String) : Text.between? "read " s!" {arg.name} < \"$INPUT_DEVICE\""
          s!"read {flags} {arg.name} < \"$INPUT_DEVICE\"" = some flags := by
        have split : s!"read {flags} {arg.name} < \"$INPUT_DEVICE\"" =
            "read " ++ flags ++ s!" {arg.name} < \"$INPUT_DEVICE\"" := by
          simp [toString, ← String.toList_inj]
        rw [split, Text.between?_append]
      cases hidden : arg.hidden with
      | false => simp [argSupply, Arg.check, given, hidden, Supply.lines, prompt, ask]
      | true => simp [argSupply, Arg.check, given, hidden, Supply.lines, prompt, ask]

theorem mapM_refusal?_argTests (arg : Arg) :
    (argTests arg).mapM (fun test => refusal? arg.name test.lines) = some arg.check.refusals := by
  have number := refusal?_reject (reason?_notNumeral arg.name)
    s!"Arg '{arg.name}' must be a number."
  have lower (bound : String) := refusal?_reject (reason?_below arg.name bound)
    s!"Arg '{arg.name}' must be at least {bound}."
  have upper (bound : String) := refusal?_reject (reason?_reaches arg.name bound)
    s!"Arg '{arg.name}' must be less than {bound}."
  rw [argTests, List.mapM_append, List.mapM_append]
  cases minimum : arg.minimum with
  | none =>
      cases maximum : arg.maximum with
      | none => simp [Arg.check, Arg.hasBounds, minimum, maximum]
      | some bound => simp [Arg.check, Arg.hasBounds, minimum, maximum, number, upper]
  | some bound =>
      cases maximum : arg.maximum with
      | none => simp [Arg.check, Arg.hasBounds, minimum, maximum, number, lower]
      | some bound => simp [Arg.check, Arg.hasBounds, minimum, maximum, number, lower, upper]

theorem readCheck?_argCheck (arg : Arg) (index : Nat)
    (scalar : ∀ value, arg.fallback = some value → Schema.isScalar value = true) :
    readCheck? arg.name (argCheck arg index) = some arg.check := by
  have line : (Statement.bind arg.name index).lines =
      [s!"{arg.name}=" ++ s!"$\x7bparts[{index}]\x7d"] := by
    simp [Statement.lines, toString, ← String.toList_inj]
  have bound : ((Statement.bind arg.name index).lines.head?.bind
      (Text.between? s!"{arg.name}=" "")) = some s!"$\x7bparts[{index}]\x7d" := by
    rw [line]
    exact Text.between?_start s!"{arg.name}=" s!"$\x7bparts[{index}]\x7d"
  rw [argCheck, readCheck?, bound, fallback?_supply arg scalar, mapM_refusal?_argTests]
  rfl

end Bash

/-! ## Batch -/

namespace Batch

def limit? : List Char → Option Reason
  | 'L' :: 'S' :: 'S' :: ' ' :: bound => some (.below (String.ofList bound))
  | 'G' :: 'E' :: 'Q' :: ' ' :: bound => some (.reaches (String.ofList bound))
  | _ => none

/-- That `non_numeric` is defined says something only after the search. -/
def reason? (name : String) (searched : Bool) (condition : String) : Option Reason :=
  if condition = "defined non_numeric" then if searched then some .notANumber else none
  else do limit? (← Text.between? s!"%{name}% " "" condition).toList

/-- The condition tells where in the line the refusal begins. -/
def refusal? (name : String) (searched : Bool) : Statement → Option Refusal
  | .failIf condition message => do
      let reason ← reason? name searched condition.source
      let line ← (Statement.failIf condition message).lines.head?
      let report ← Text.between? s!"if {condition.source} (\n    set \"errMsg="
        "\"\n    set func=error\n    call :func_error\n    exit /b 1\n)" line
      return ⟨reason, report⟩
  | _ => none

/-- The variable `non_numeric` becomes defined if a value is empty or has something in it that no
number has. -/
def searchLines (name : String) : List String :=
  ["set \"non_numeric=\"",
   s!"for /f \"delims=-0123456789\" %%i in (\"%{name}%\") do set \"non_numeric=%%i\"",
   s!"if \"%{name}%\" == \"\" set \"non_numeric=1\""]

def refusals? (name : String) : Bool → List Statement → Option (List Refusal)
  | _, [] => some []
  | searched, test :: rest =>
      if test.lines = searchLines name then refusals? name true rest
      else do
        let refusal ← refusal? name searched test
        return refusal :: (← refusals? name searched rest)

/-- Runs a command that reads without showing what is typed. -/
def capture : String :=
  "for /f \"usebackq delims=\" %%p in (\x60powershell -NoProfile -Command \""

def fallback? (name : String) : List String → Option Fallback
  | [line] => (Text.between? s!"set \"{name}=" "\"" line).map .assigned
  | [clear, ask] =>
      if clear = s!"set \"{name}=\"" then
        match Text.between? s!"set /p {name}=" "" ask with
        | some _ => some (.asked false)
        | none =>
            (Text.between? capture s!"\"\x60) do set \"{name}=%%p\"" ask).map fun _ => .asked true
      else none
  | _ => none

/-- How the variable of an argument is checked: it is bound, given a value unless a jump leads past
that, and tested. -/
def readCheck? (name : String) : List Statement → Option ArgCheck
  | bound :: jump :: supply :: label :: tests => do
      let _ ← bound.lines.head?.bind (Text.between? s!"set \"{name}=" "\"")
      let target ← jump.lines.head?.bind (Text.between? s!"if NOT \"%{name}%\" == \"\" goto " "")
      if label.lines = [":" ++ target] then
        let fallback ← fallback? name supply.lines
        return ⟨fallback, ← refusals? name false tests⟩
      else none
  | _ => none

theorem reason?_limit (name comparison : String) (searched : Bool) :
    reason? name searched (s!"%{name}% " ++ comparison) = limit? comparison.toList := by
  have other : s!"%{name}% " ++ comparison ≠ "defined non_numeric" := by
    intro same
    simpa [toString] using congrArg (·.toList.head?) same
  rw [reason?, if_neg other, Text.between?_start]
  rfl

theorem reason?_defined (name : String) :
    reason? name true (Condition.defined "non_numeric").source = some .notANumber :=
  if_pos rfl

theorem reason?_below (name bound : String) (searched : Bool) :
    reason? name searched (Condition.below name bound).source = some (.below bound) := by
  have split : (Condition.below name bound).source = s!"%{name}% " ++ ("LSS " ++ bound) := by
    simp [Condition.source, toString, ← String.toList_inj]
  rw [split, reason?_limit]
  simp [limit?]

theorem reason?_reaches (name bound : String) (searched : Bool) :
    reason? name searched (Condition.reaches name bound).source = some (.reaches bound) := by
  have split : (Condition.reaches name bound).source = s!"%{name}% " ++ ("GEQ " ++ bound) := by
    simp [Condition.source, toString, ← String.toList_inj]
  rw [split, reason?_limit]
  simp [limit?]

theorem refusal?_failIf {name : String} {searched : Bool} {condition : Condition} {reason : Reason}
    (read : reason? name searched condition.source = some reason) (message : String) :
    refusal? name searched (.failIf condition message) = some ⟨reason, message⟩ := by
  have line : (Statement.failIf condition message).lines =
      [s!"if {condition.source} (\n    set \"errMsg=" ++ message ++
        "\"\n    set func=error\n    call :func_error\n    exit /b 1\n)"] := by
    have called : call "error" [] = ["set func=error", "call :func_error"] := by decide +kernel
    simp [Statement.lines, fail, error, called, indent, Text.joinLines, toString,
      ← String.toList_inj]
  rw [refusal?, line]
  simp [read, Text.between?_append]

theorem refusals?_search (name : String) (rest : List Statement) :
    refusals? name false (.findNonNumeral name :: rest) = refusals? name true rest :=
  if_pos rfl

theorem refusals?_failIf {name : String} {searched : Bool} {condition : Condition} {reason : Reason}
    (read : reason? name searched condition.source = some reason) (message : String)
    (rest : List Statement) :
    refusals? name searched (.failIf condition message :: rest) =
      (refusals? name searched rest).map (⟨reason, message⟩ :: ·) := by
  have other : (Statement.failIf condition message).lines ≠ searchLines name := by
    intro same
    cases congrArg List.length same
  rw [refusals?, if_neg other, refusal?_failIf read]
  cases refusals? name searched rest with
  | none => rfl
  | some refusals => rfl

theorem refusals?_argTests (arg : Arg) :
    refusals? arg.name false (argTests arg) = some arg.check.refusals := by
  have none_left (searched : Bool) : refusals? arg.name searched [] = some [] := rfl
  have number := refusals?_failIf (reason?_defined arg.name)
    s!"Arg '{arg.name}' must be a number."
  have lower (bound : String) := refusals?_failIf (reason?_below arg.name bound true)
    s!"Arg '{arg.name}' must be at least {bound}."
  have upper (bound : String) := refusals?_failIf (reason?_reaches arg.name bound true)
    s!"Arg '{arg.name}' must be less than {bound}."
  cases minimum : arg.minimum with
  | none =>
      cases maximum : arg.maximum with
      | none => simp [argTests, Arg.check, Arg.hasBounds, minimum, maximum, none_left]
      | some bound =>
          simp [argTests, Arg.check, Arg.hasBounds, minimum, maximum, refusals?_search, number,
            upper, none_left]
  | some bound =>
      cases maximum : arg.maximum with
      | none =>
          simp [argTests, Arg.check, Arg.hasBounds, minimum, maximum, refusals?_search, number,
            lower, none_left]
      | some bound =>
          simp [argTests, Arg.check, Arg.hasBounds, minimum, maximum, refusals?_search, number,
            lower, upper, none_left]

theorem fallback?_hiddenPrompt (name label : String) :
    fallback? name (hiddenPrompt label name) = some (.asked true) := by
  obtain ⟨command, lines⟩ : ∃ command, hiddenPrompt label name = [s!"set \"{name}=\"",
      capture ++ command ++ "\"\x60) do " ++ s!"set \"{name}=%%p\""] := ⟨_, rfl⟩
  have split : capture ++ command ++ "\"\x60) do " ++ s!"set \"{name}=%%p\"" =
      capture ++ command ++ s!"\"\x60) do set \"{name}=%%p\"" := by
    simp [toString, ← String.toList_inj]
  have hides : Text.between? s!"set /p {name}=" ""
      (capture ++ command ++ s!"\"\x60) do set \"{name}=%%p\"") = none := by
    exact Text.between?_eq_none (by simp [capture, toString]) ""
  rw [lines, split, fallback?, if_pos rfl, hides, Text.between?_append]
  rfl

theorem fallback?_supply (arg : Arg) :
    fallback? arg.name (argSupply arg).lines = some arg.check.fallback := by
  cases given : arg.fallback with
  | some value =>
      have line : Text.between? s!"set \"{arg.name}=" "\""
          s!"set \"{arg.name}={valueText value}\"" = some (valueText value) :=
        Text.between?_append s!"set \"{arg.name}=" "\"" (valueText value)
      simp [argSupply, Arg.check, given, Statement.lines, fallback?, line]
  | none =>
      cases hidden : arg.hidden with
      | false =>
          have ask : Text.between? s!"set /p {arg.name}=" ""
              s!"set /p {arg.name}={escape arg.promptText}" = some (escape arg.promptText) :=
            Text.between?_start s!"set /p {arg.name}=" (escape arg.promptText)
          simp [argSupply, Arg.check, given, hidden, Statement.lines, prompt, fallback?, ask]
      | true =>
          simp [argSupply, Arg.check, given, hidden, Statement.lines, fallback?_hiddenPrompt]

theorem readCheck?_argCheck (arg : Arg) (position : Nat) (label : String) :
    readCheck? arg.name (argCheck arg position label) = some arg.check := by
  have bound : (Statement.assign arg.name s!"%~{position}").lines.head?.bind
      (Text.between? s!"set \"{arg.name}=" "\"") = some s!"%~{position}" :=
    Text.between?_append s!"set \"{arg.name}=" "\"" s!"%~{position}"
  have jump : (Statement.jumpIf (.variable arg.name "" false) label).lines.head?.bind
      (Text.between? s!"if NOT \"%{arg.name}%\" == \"\" goto " "") = some label := by
    have line : (Statement.jumpIf (.variable arg.name "" false) label).lines =
        [s!"if NOT \"%{arg.name}%\" == \"\" goto " ++ label] := by
      simp [Statement.lines, Condition.source, toString, ← String.toList_inj]
    rw [line]
    exact Text.between?_start s!"if NOT \"%{arg.name}%\" == \"\" goto " label
  have target : (Statement.label label).lines = [":" ++ label] := rfl
  rw [argCheck, readCheck?, bound, jump, fallback?_supply, refusals?_argTests]
  simp [target]

end Batch

/-- The default has both kinds of quotes in it, and something that is live between some of them. -/
def quotedArg : Arg where
  name := "greeting"
  fallback := some (.str "it's \"$HOME\"")
  minimum := some (.int (-3))
  maximum := some (.int 10)

end ShellMenu
