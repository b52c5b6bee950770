import ShellMenu.Proofs.Batch.Jumps
import ShellMenu.Proofs.Plan.Binding

/-
  How the batch interpreter goes through the lines of a process routine. Those before the body of a
  block are followed one by one: variables are set, conditions are read from their text, and a jump
  goes on after the first of the following lines that is a label of that name.
-/

namespace ShellMenu.Batch

/-! ## Variables -/

/-- Case is ignored in the names, and a variable that was never set is empty. -/
structure Environment where
  value : String → String

namespace Environment

def get (env : Environment) (name : String) : String :=
  env.value (Text.lower name)

def set (env : Environment) (name value : String) : Environment :=
  ⟨fun other => if other = Text.lower name then value else env.value other⟩

@[simp]
theorem get_set (env : Environment) (name value : String) :
    (env.set name value).get name = value := by
  simp [get, set]

end Environment

/-! ## Lines -/

/-- One side of a comparison: a variable, or a text in which the first parameter may stand. -/
def operand? (token : String) (env : Environment) (text : List Char) : Option String :=
  match Text.enclosed? '%' text with
  | some (name, []) => some (env.get (String.ofList name))
  | _ => (expand [token] text).map String.ofList

/-- Both sides stand in double quotes. What follows them is given as well. -/
def comparison? (token : String) (env : Environment) (text : List Char) :
    Option (Bool × String) :=
  match Text.enclosed? '"' text with
  | some (left, ' ' :: '=' :: '=' :: ' ' :: rest) =>
      match Text.enclosed? '"' rest with
      | some (right, ' ' :: after) => do
          let left ← operand? token env left
          let right ← operand? token env right
          return (left = right, String.ofList after)
      | _ => none
  | _ => none

def condition? (token : String) (env : Environment) (text : String) : Option (Bool × String) :=
  match Text.between? "NOT " "" text with
  | some rest => (comparison? token env rest.toList).map fun (holds, after) => (!holds, after)
  | none => comparison? token env text.toList

/-- What a line does where no body has been entered: it sets a variable or nothing, jumps, goes on
into a body because it does not jump, or does something else. -/
inductive Step where
  | pass (env : Environment)
  | jump (target : String)
  | enter
  | other

/-- Behind a colon is a label or a remark. -/
def step (token : String) (env : Environment) (row : String) : Step :=
  if row.toList.head? = some ':' then .pass env
  else
    match assigned? row with
    | some (name, value) => .pass (env.set name value)
    | none =>
        match (Text.between? "if " "" row).bind (condition? token env) with
        | none => .other
        | some (holds, action) =>
            match assigned? action with
            | some (name, value) => .pass (if holds then env.set name value else env)
            | none =>
                match Text.between? "goto " "" action with
                -- These jumps lead past a body, so going on is going into it.
                | some target => if holds then .jump target else .enter
                | none => .other
where
  assigned? (text : String) : Option (String × String) := do
    let (name, word) ← assignment? text
    let value ← expand? [token] word
    return (name, value)

/-- Where a run stops: in front of a body, or of a line that does something else. -/
structure Reached where
  entered : Bool
  env : Environment
  rest : List String

/-- Follows the lines; a label that was jumped to is looked for first. -/
def reach? (token : String) : Environment → Option String → List String → Option Reached
  | _, some _, [] => none
  | env, none, [] => some ⟨false, env, []⟩
  | env, some target, row :: rest =>
      -- Only lines still to come are looked at: no jump of a process routine goes back.
      if labelRow? row = some target then reach? token env none rest
      else reach? token env (some target) rest
  | env, none, row :: rest =>
      match step token env row with
      | .pass env => reach? token env none rest
      | .jump target => reach? token env (some target) rest
      | .enter => some ⟨true, env, rest⟩
      | .other => some ⟨false, env, row :: rest⟩

/-- Has none of the characters that would end the quotes, the line or the literal. -/
def Quotable (text : String) : Prop :=
  ∀ c ∈ text.toList, c ≠ '"' ∧ c ≠ '%' ∧ c ≠ '\n' ∧ c ≠ '\r'

instance (text : String) : Decidable (Quotable text) :=
  List.decidableBAll _ text.toList

namespace Quotable

variable {text : String} (quotable : Quotable text)

include quotable

theorem not_mem : '"' ∉ text.toList ∧ '%' ∉ text.toList :=
  ⟨fun found => (quotable _ found).1 rfl, fun found => (quotable _ found).2.1 rfl⟩

theorem isUnbroken : Text.IsUnbroken text :=
  fun found => (quotable _ found).2.2.1 rfl

theorem expand_eq (words : List String) : expand words text.toList = some text.toList := by
  refine expand_of_not_live words fun c present => ?_
  obtain ⟨_, percent, feed, carriage⟩ := quotable c present
  simp [isLive, percent, feed, carriage]

theorem operand?_eq (token : String) (env : Environment) :
    operand? token env text.toList = some text := by
  have plain : Text.enclosed? '%' text.toList = none := by
    cases chars : text.toList with
    | nil => rfl
    | cons c rest =>
        have apart : c ≠ '%' := (quotable c (chars ▸ List.mem_cons_self)).2.1
        rw [Text.enclosed?, if_neg apart]
  rw [operand?, plain, quotable.expand_eq]
  simp

end Quotable

theorem operand?_token (token : String) (env : Environment) :
    operand? token env ['%', '~', '1'] = some token := by
  have read : expand [token] ['%', '~', '1'] = some token.toList := by
    simp [expand, parameter?, Nat.ofDigitChars]
  simp [operand?, Text.enclosed?, Text.upTo?, read]

theorem operand?_variable {name : String} (quotable : Quotable name) (token : String)
    (env : Environment) :
    operand? token env ('%' :: name.toList ++ ['%']) = some (env.get name) := by
  rw [operand?, Text.enclosed?_append quotable.not_mem.2]
  simp

section Steps

variable {token : String} {env : Environment}

theorem comparison?_eq {left right : List Char} {leftValue rightValue : String}
    (leftFree : '"' ∉ left) (rightFree : '"' ∉ right)
    (leftRead : operand? token env left = some leftValue)
    (rightRead : operand? token env right = some rightValue) (action : String) :
    comparison? token env ('"' :: left ++ '"' :: ' ' :: '=' :: '=' :: ' ' ::
        ('"' :: right ++ '"' :: ' ' :: action.toList)) =
      some (decide (leftValue = rightValue), action) := by
  rw [comparison?, Text.enclosed?_append leftFree]
  simp only
  rw [Text.enclosed?_append rightFree]
  simp only
  rw [leftRead, rightRead]
  simp

theorem condition?_eq {text action : String} {value : Bool} (quoted : text.toList.head? = some '"')
    (compared : comparison? token env text.toList = some (value, action)) (same : Bool) :
    condition? token env ((if same then "" else "NOT ") ++ text) =
      some (value == same, action) := by
  cases same with
  | true =>
      have plain : Text.between? "NOT " "" text = none := by
        refine Text.between?_eq_none ?_ ""
        rintro ⟨rest, same⟩
        rw [← same] at quoted
        cases quoted
      rw [if_pos rfl, String.empty_append, condition?, plain]
      simp [compared]
  | false =>
      have negated : (if false then "" else "NOT ") ++ text = "NOT " ++ text := rfl
      rw [negated, condition?, Text.between?_start]
      simp [compared]

theorem condition?_token {word : String} (quotable : Quotable word) (same : Bool)
    (action : String) :
    condition? token env ((Condition.token word same).source ++ " " ++ action) =
      some (decide (token = word) == same, action) := by
  have text : (s!"\"%~1\" == \"{word}\"" ++ (" " ++ action)).toList =
      '"' :: ['%', '~', '1'] ++ '"' :: ' ' :: '=' :: '=' :: ' ' ::
        ('"' :: word.toList ++ '"' :: ' ' :: action.toList) := by
    simp [toString]
  rw [Condition.source, String.append_assoc, String.append_assoc]
  refine condition?_eq (by simp [text]) ?_ same
  rw [text]
  exact comparison?_eq (by decide) quotable.not_mem.1 (operand?_token token env)
    (quotable.operand?_eq token env) action

theorem condition?_variable {name value : String} (named : Quotable name)
    (quotable : Quotable value) (same : Bool) (action : String) :
    condition? token env ((Condition.variable name value same).source ++ " " ++ action) =
      some (decide (env.get name = value) == same, action) := by
  have text : (s!"\"%{name}%\" == \"{value}\"" ++ (" " ++ action)).toList =
      '"' :: ('%' :: name.toList ++ ['%']) ++ '"' :: ' ' :: '=' :: '=' :: ' ' ::
        ('"' :: value.toList ++ '"' :: ' ' :: action.toList) := by
    simp [toString]
  have free : '"' ∉ '%' :: name.toList ++ ['%'] := by
    simp [named.not_mem.1]
  rw [Condition.source, String.append_assoc, String.append_assoc]
  refine condition?_eq (by simp [text]) ?_ same
  rw [text]
  exact comparison?_eq free quotable.not_mem.1 (operand?_variable named token env)
    (quotable.operand?_eq token env) action

theorem assigned?_eq {name value : String} (named : Text.isIdentifier name = true)
    (quotable : Quotable value) :
    step.assigned? token ("set \"" ++ (name ++ "=" ++ value) ++ "\"") = some (name, value) := by
  rw [step.assigned?, assignment?_eq named]
  simp [expand?, quotable.expand_eq]

theorem assigned?_if (text : String) : step.assigned? token ("if " ++ text) = none := by
  have apart : Text.between? "set \"" "\"" ("if " ++ text) = none :=
    Text.between?_eq_none (by simp) "\""
  simp [step.assigned?, assignment?, apart]

theorem assigned?_goto (text : String) : step.assigned? token ("goto " ++ text) = none := by
  have apart : Text.between? "set \"" "\"" ("goto " ++ text) = none :=
    Text.between?_eq_none (by simp) "\""
  simp [step.assigned?, assignment?, apart]

theorem step_aside (text : String) : step token env (":" ++ text) = .pass env := by
  simp [step]

theorem step_other {row : String} (unmarked : row.toList.head? ≠ some ':')
    (unset : assignment? row = none) (bare : Text.between? "if " "" row = none) :
    step token env row = .other := by
  simp [step, step.assigned?, unmarked, unset, bare]

theorem step_assign {name value : String} (named : Text.isIdentifier name = true)
    (quotable : Quotable value) :
    step token env ("set \"" ++ (name ++ "=" ++ value) ++ "\"") = .pass (env.set name value) := by
  rw [step, assigned?_eq named quotable, if_neg (by simp)]

theorem step_assignIf {condition : Condition} {holds : Bool} {name value : String}
    (read : ∀ action, condition? token env (condition.source ++ " " ++ action) =
      some (holds, action))
    (named : Text.isIdentifier name = true) (quotable : Quotable value) :
    step token env ("if " ++ (condition.source ++ " "
        ++ ("set \"" ++ (name ++ "=" ++ value) ++ "\""))) =
      .pass (if holds then env.set name value else env) := by
  rw [step, if_neg (by simp), assigned?_if, Text.between?_start]
  simp only [Option.bind_some, read, assigned?_eq named quotable]

theorem step_jumpIf {condition : Condition} {holds : Bool}
    (read : ∀ action, condition? token env (condition.source ++ " " ++ action) =
      some (holds, action)) (target : String) :
    step token env ("if " ++ (condition.source ++ " " ++ ("goto " ++ target))) =
      if holds then .jump target else .enter := by
  rw [step, if_neg (by simp), assigned?_if, Text.between?_start]
  simp only [Option.bind_some, read, assigned?_goto, Text.between?_start]

theorem reach?_pass {after : Environment} {row : String} (passes : step token env row = .pass after)
    (rest : List String) : reach? token env none (row :: rest) = reach? token after none rest := by
  simp only [reach?, passes]

/-- A jump that is not made leads into the body. -/
theorem reach?_jumpIf {condition : Condition} {holds : Bool}
    (read : ∀ action, condition? token env (condition.source ++ " " ++ action) =
      some (holds, action)) (target : String) (rest : List String) :
    reach? token env none (("if " ++ (condition.source ++ " " ++ ("goto " ++ target))) :: rest) =
      if holds then reach? token env (some target) rest else some ⟨true, env, rest⟩ := by
  simp only [reach?, step_jumpIf read]
  cases holds with
  | true => rfl
  | false => rfl

/-- A jump goes on after the first line that is its label. -/
theorem reach?_seek {target : String} (labelled : labelRow? (":" ++ target) = some target)
    {skipped : List String} (free : ∀ row ∈ skipped, labelRow? row ≠ some target)
    (rest : List String) :
    reach? token env (some target) (skipped ++ (":" ++ target) :: rest) =
      reach? token env none rest := by
  induction skipped with
  | nil => simp [reach?, labelled]
  | cons row skipped ih =>
      obtain ⟨here, later⟩ := List.forall_mem_cons.1 free
      rw [List.cons_append, reach?, if_neg here, ih later]

end Steps

/-! ## Matchers -/

theorem rows_assign {name value : String} (named : Text.IsUnbroken name)
    (valued : Text.IsUnbroken value) :
    (Statement.assign name value).rows = ["set \"" ++ (name ++ "=" ++ value) ++ "\""] := by
  refine rows_of_lines (by simp [Statement.lines, toString, String.append_assoc]) ?_
  simp [Text.IsUnbroken, named, valued]

theorem rows_assignIf {condition : Condition} (tidy : condition.IsTidy) {name value : String}
    (named : Text.IsUnbroken name) (valued : Text.IsUnbroken value) :
    (Statement.assignIf condition name value).rows = ["if " ++ (condition.source ++ " "
      ++ ("set \"" ++ (name ++ "=" ++ value) ++ "\""))] := by
  have line : (Statement.assignIf condition name value).lines = ["if " ++ (condition.source ++ " "
      ++ ("set \"" ++ (name ++ "=" ++ value) ++ "\""))] := by
    refine congrArg (fun row => [row]) (String.toList_injective ?_)
    simp [toString]
  refine rows_of_lines line ?_
  simp [Text.IsUnbroken, tidy.source, named, valued]

theorem rows_jumpIf {condition : Condition} (tidy : condition.IsTidy) {target : String}
    (named : Text.IsUnbroken target) :
    (Statement.jumpIf condition target).rows =
      ["if " ++ (condition.source ++ " " ++ ("goto " ++ target))] := by
  have line : (Statement.jumpIf condition target).lines =
      ["if " ++ (condition.source ++ " " ++ ("goto " ++ target))] := by
    refine congrArg (fun row => [row]) (String.toList_injective ?_)
    simp [toString]
  refine rows_of_lines line ?_
  simp [Text.IsUnbroken, tidy.source, named]

theorem isIdentifier_flagName (command : String) : Text.isIdentifier (flagName command) = true := by
  have chars : (flagName command).toList =
      'i' :: ("s_command_".toList ++ (Escape.toIdentifier command).toList) := by
    simp [flagName, toString]
  have letters : "s_command_".toList.all (fun c => c.isAlphanum || c = '_') = true := by decide
  simp only [Text.isIdentifier, chars, List.all_append, Bool.and_eq_true]
  refine ⟨rfl, letters, List.all_eq_true.2 fun c present => ?_⟩
  simpa using Escape.mem_toIdentifier present

theorem quotable_of_isIdentifier {name : String} (named : Text.isIdentifier name = true) :
    Quotable name := by
  intro c present
  have apart (other : Char) (plain : other.isAlphanum = false) (notLine : other ≠ '_') :
      c ≠ other := by
    rintro rfl
    rcases Text.isWordChar_of_mem named present with letter | line
    · exact Bool.false_ne_true (plain.symm.trans letter)
    · exact notLine line
  exact ⟨apart _ rfl (by decide), apart _ rfl (by decide), apart _ rfl (by decide),
    apart _ rfl (by decide)⟩

section Matching

variable (token : String)

/-- Once every name was compared, the flag tells whether one of them was the token. -/
theorem reach?_names {flag : String} (named : Text.isIdentifier flag = true) {names : List String}
    (quotable : ∀ name ∈ names, Quotable name) (env : Environment) :
    ∃ after : Environment, after.get flag = (if names.contains token then "1" else env.get flag) ∧
      ∀ rest, reach? token env none (rows (names.map fun name =>
        .assignIf (.token name true) flag "1") ++ rest) = reach? token after none rest := by
  induction names generalizing env with
  | nil => exact ⟨env, rfl, fun _ => rfl⟩
  | cons name names ih =>
      obtain ⟨here, later⟩ := List.forall_mem_cons.1 quotable
      obtain ⟨after, flagged, followed⟩ :=
        ih later (if decide (token = name) == true then env.set flag "1" else env)
      refine ⟨after, ?_, fun rest => ?_⟩
      · rw [flagged]
        by_cases same : token = name
        · simp [same]
        · simp [same]
      · have asked : (Condition.token name true).IsTidy := here.isUnbroken
        have row := rows_assignIf asked (quotable_of_isIdentifier named).isUnbroken
          (show Text.IsUnbroken "1" by decide)
        rw [List.map_cons, rows_cons, row, List.append_assoc, List.singleton_append,
          reach?_pass (step_assignIf (condition?_token here true) named (by decide)), followed]

/-- A matcher goes on into the body for the names of its command, and jumps past it for any other
token, whatever the flag was before. -/
theorem reach?_matcher {command : Command} (quotable : ∀ name ∈ command.names, Quotable name)
    {past : String} (named : Text.IsUnbroken past) (env : Environment) :
    ∃ after : Environment, ∀ rest, reach? token env none (rows (matcher command past) ++ rest) =
      if command.names.contains token then some ⟨true, after, rest⟩
      else reach? token after (some past) rest := by
  unfold matcher
  split
  · next alone =>
      have only : command.names = [command.name] := by
        simp [Command.names, List.isEmpty_iff.1 alone]
      have word := quotable command.name List.mem_cons_self
      have asked : (Condition.token command.name false).IsTidy := word.isUnbroken
      refine ⟨env, fun rest => ?_⟩
      rw [rows_cons, rows_jumpIf asked named, List.append_assoc, List.singleton_append,
        reach?_jumpIf (condition?_token word false), only]
      by_cases same : token = command.name
      · simp [same]
      · simp [same]
  · have flag := isIdentifier_flagName command.name
    have zero : Quotable "0" := by decide
    have flagText := quotable_of_isIdentifier flag
    have asked : (Condition.variable (flagName command.name) "0" true).IsTidy :=
      ⟨flagText.isUnbroken, zero.isUnbroken⟩
    obtain ⟨after, flagged, followed⟩ :=
      reach?_names token flag quotable (env.set (flagName command.name) "0")
    refine ⟨after, fun rest => ?_⟩
    simp only [List.cons_append]
    rw [rows_cons, rows_assign flagText.isUnbroken zero.isUnbroken, rows_append, List.append_assoc,
      List.append_assoc, List.singleton_append, reach?_pass (step_assign flag zero), followed,
      rows_cons, rows_jumpIf asked named, List.append_assoc, List.singleton_append,
      reach?_jumpIf (condition?_variable flagText zero true), flagged, Environment.get_set]
    cases command.names.contains token with
    | true => simp
    | false => simp

end Matching

/-! ## Blocks -/

/-- What the lines of a block do for a command. -/
structure Block.Serves (command : Command) (block : Block) : Prop where
  described : Text.IsUnbroken block.description
  matcher : block.matcher = Batch.matcher command block.past
  past : Text.IsUnbroken block.past ∧ labelRow? (":" ++ block.past) = some block.past
  free : ∀ row ∈ rows block.body, labelRow? row ≠ some block.past

theorem serves_of_block {plan : MenuPlan} {levels : List Int} {index : Nat}
    {planned : PlannedCommand} (named : Text.IsUnbroken plan.name)
    (described : Text.IsUnbroken planned.command.description)
    (unbroken : planned.command.IsUnbroken)
    (authored : ∀ inline, planned.body = .inline inline → ∀ line ∈ inline.lines,
      ∀ row ∈ Text.splitAt '\n' line, ∀ number,
        labelRow? row ≠ some (endCommand plan.name number)) :
    Ends (Block.Serves planned.command) (fun _ => True) (block plan levels index planned) := by
  have tidy : Ends (fun block => Tidy
      (fun row => ∀ number, labelRow? row ≠ some (endCommand plan.name number)) block.body)
      (fun _ => True) (block plan levels index planned) := by
    refine tidy_body named unbroken (fun number => ?_) authored
    simp [labelRow?, isIndent]
  refine ((tidy.and (nested_body plan levels index planned)).and (block_parts _ _ _ _)).mono ?_
    fun _ holds => holds
  rintro block ⟨⟨body, nested⟩, same, matching, past⟩
  refine ⟨same ▸ described, matching, ?_, fun row present read => ?_⟩
  · have label : (Statement.label (endCommand plan.name index)).IsTidy fun _ => True :=
      isTidy_endCommand named index
    rw [past]
    exact label
  · rw [past] at read
    rcases body.mem_labels_or_aside present read with inside | free
    · rw [nested.labels_eq, ← Site.label_past] at inside
      obtain ⟨site, listed, label⟩ := List.mem_map.1 inside
      cases Site.label_injective plan.name label
      rcases List.mem_append.1 listed with check | shown
      · rcases of_mem_checkSites check with other | ⟨_, _, other⟩ <;> cases other
      · obtain ⟨⟨level, other⟩, _⟩ := of_mem_bodySites shown
        cases other
    · exact free index read

/-- What a run has before it at the start of a body. -/
def Block.rowsFromBody (block : Block) (later : List Block) : List String :=
  rows (block.body ++ [.line "exit /b", .label block.past] ++ processStatements later)

section Served

variable {command : Command} {block : Block} (serves : block.Serves command) (later : List Block)

include serves

theorem Block.Serves.rowsFromBody_eq :
    block.rowsFromBody later =
      (rows block.body ++ ["exit /b"]) ++ (":" ++ block.past)
        :: rows (processStatements later) := by
  have last : (Statement.line "exit /b").rows = ["exit /b"] := rows_of_lines rfl (by decide)
  have label : (Statement.label block.past).rows = [":" ++ block.past] :=
    rows_of_lines rfl (Text.IsUnbroken.append (by decide) serves.past.1)
  simp [Block.rowsFromBody, rows_append, rows_cons, last, label]

theorem Block.Serves.rows_processStatements :
    rows (processStatements (block :: later)) =
      (":" ++ (" " ++ block.description)) :: (rows (Batch.matcher command block.past)
        ++ block.rowsFromBody later) := by
  have remark : (Statement.comment block.description).rows =
      [":" ++ (" " ++ block.description)] := by
    have line : (Statement.comment block.description).lines =
        [":" ++ (" " ++ block.description)] := by
      refine congrArg (fun row => [row]) (String.toList_injective ?_)
      simp [toString]
    exact rows_of_lines line (by simp [Text.IsUnbroken, serves.described])
  rw [Block.rowsFromBody, processStatements, List.flatMap_cons, Block.statements, serves.matcher]
  simp [processStatements, rows_cons, rows_append, remark]

end Served

theorem rows_invalidCommand : rows invalidCommand =
    [": Invalid command.", "set \"errMsg=\"%~1\" is not a valid command.\"", "set func=error",
      "call :func_error", "exit /b 1"] := by
  decide +kernel

/-- Past all blocks, the message gets the token, and then the error is called. -/
theorem reach?_invalidCommand (token : String) (env : Environment) :
    reach? token env none (rows invalidCommand) =
      some ⟨false, env.set "errMsg" ("\"" ++ token ++ "\" is not a valid command."),
        ["set func=error", "call :func_error", "exit /b 1"]⟩ := by
  have remark : step token env ": Invalid command." = .pass env := step_aside " Invalid command."
  have row : "set \"errMsg=\"%~1\" is not a valid command.\"" =
      "set \"" ++ ("errMsg" ++ "=" ++ "\"%~1\" is not a valid command.") ++ "\"" := by
    decide
  have words : expand? [token] "\"%~1\" is not a valid command." =
      some ("\"" ++ token ++ "\" is not a valid command.") := by
    have chars : "\"%~1\" is not a valid command.".toList =
        '"' :: '%' :: '~' :: '1' :: "\" is not a valid command.".toList := by
      decide
    have dead : "\" is not a valid command.".toList.all (!isLive ·) = true := by decide
    have ending : expand [token] "\" is not a valid command.".toList = _ :=
      expand_of_not_live [token] fun c present => by simpa using List.all_eq_true.1 dead c present
    have parameter : expand [token] ('%' :: '~' :: '1' :: "\" is not a valid command.".toList) =
        some (token.toList ++ "\" is not a valid command.".toList) := by
      rw [expand, if_pos (by decide), ending]
      rfl
    rw [expand?, chars, expand, parameter]
    · refine congrArg some (String.toList_injective ?_)
      simp
    · simp
  have told : step token env "set \"errMsg=\"%~1\" is not a valid command.\"" =
      .pass (env.set "errMsg" ("\"" ++ token ++ "\" is not a valid command.")) := by
    rw [row, step, if_neg (by simp), step.assigned?, assignment?_eq (by decide)]
    simp [words]
  have calls (env : Environment) : step token env "set func=error" = .other :=
    step_other (by decide) (by decide +kernel) (by decide +kernel)
  rw [rows_invalidCommand, reach?_pass remark, reach?_pass told]
  simp only [reach?, calls]

/-- The body of the first command with that name is entered, whatever the variables were. If there
is none, the message of the error tells the token. -/
theorem reach?_processStatements {commands : List Command} {blocks : List Block} (token : String)
    (serving : List.Forall₂ Block.Serves commands blocks)
    (quotable : ∀ command ∈ commands, ∀ name ∈ command.names, Quotable name) (env : Environment) :
    ∃ after : Environment,
      (∀ place block, commands.findIdx? (·.names.contains token) = some place →
        blocks[place]? = some block →
          reach? token env none (rows (processStatements blocks)) =
            some ⟨true, after, block.rowsFromBody (blocks.drop (place + 1))⟩) ∧
      (commands.findIdx? (·.names.contains token) = none →
        reach? token env none (rows (processStatements blocks)) =
            some ⟨false, after, ["set func=error", "call :func_error", "exit /b 1"]⟩ ∧
          after.get "errMsg" = "\"" ++ token ++ "\" is not a valid command.") := by
  induction serving generalizing env with
  | nil =>
      refine ⟨env.set "errMsg" ("\"" ++ token ++ "\" is not a valid command."),
        fun _ _ first => ?_, fun _ => ?_⟩
      · cases first
      · exact ⟨reach?_invalidCommand token env, Environment.get_set _ _ _⟩
  | @cons command block commands blocks serves _ ih =>
      obtain ⟨here, others⟩ := List.forall_mem_cons.1 quotable
      obtain ⟨after, matched⟩ := reach?_matcher token here serves.past.1 env
      obtain ⟨last, found, missing⟩ := ih others after
      have remark : step token env (":" ++ (" " ++ block.description)) = .pass env := step_aside _
      have jump : reach? token after (some block.past) (block.rowsFromBody blocks) =
          reach? token after none (rows (processStatements blocks)) := by
        rw [serves.rowsFromBody_eq]
        refine reach?_seek serves.past.2 (List.forall_mem_append.2 ⟨serves.free, ?_⟩) _
        exact List.forall_mem_singleton.2 (by simp [labelRow?, isIndent])
      rw [serves.rows_processStatements, reach?_pass remark, matched, jump, List.findIdx?_cons]
      cases command.names.contains token with
      | true =>
          refine ⟨after, fun place found first listed => ?_, fun none => ?_⟩
          · cases first
            cases listed
            rfl
          · cases none
      | false =>
          refine ⟨last, fun place block first listed => ?_, fun none => ?_⟩
          · obtain ⟨before, inside, rfl⟩ := Option.map_eq_some_iff.1 first
            exact found before block inside listed
          · exact missing (Option.map_eq_none_iff.1 none)

/-- The lines inside a process routine are those of its blocks and of the error past them. -/
theorem rows_code_processRoutine {plan : MenuPlan} {levels : List Int} {routine : Routine}
    (done : processRoutine plan levels = .ok routine) :
    ∃ blocks, Batch.blocks plan levels = .ok blocks ∧
      Text.splitAt '\n' routine.code = rows (processStatements blocks) := by
  obtain ⟨blocks, written, rest⟩ := exists_of_bind_eq_ok done
  cases rest
  refine ⟨blocks, written, splitAt_joinLines_statementLines ?_⟩
  simp [processStatements, statementLines, invalidCommand, Statement.lines]

end ShellMenu.Batch
