import ShellMenu.Proofs.Bash.Lines
import ShellMenu.Proofs.Batch.Dispatch
import ShellMenu.Proofs.Spec.Demo

/-
  Both dialects go to the same command for every token: the first one of the table that has the
  token among its names, and the error for an invalid command if there is none. Both are read from
  the lines of their process routines, so what is put into a line must not end it.
-/

namespace ShellMenu

/-- Has a name of its own, and only words that can be put in quotes. -/
structure Command.Callable (command : Command) : Prop where
  proper : command.isCatchAll = false
  named : command.name ≠ "*"
  quotable : ∀ name ∈ command.names, Batch.Quotable name

def Command.answers (token : String) (command : Command) : Bool :=
  !command.isCatchAll && command.names.contains token

theorem Table.callable_of_mem_named {command : Command} {menu : String} {levels : List Int}
    (present : command ∈ named menu levels) : command.Callable := by
  have words : ∀ names : List String, command.names = names →
      (∀ name ∈ names, Batch.Quotable name) → ∀ name ∈ command.names, Batch.Quotable name :=
    fun names same each => same ▸ each
  rcases eq_of_mem_named present with rfl | rfl | rfl | rfl
  · exact ⟨rfl, by simp [clear], words ["clear", "cls", "c"] rfl (by decide)⟩
  · exact ⟨rfl, by simp [exit], words ["exit", "ex", "e"] rfl (by decide)⟩
  · exact ⟨rfl, by simp [help], words ["help", "?", "h"] rfl (by decide)⟩
  · exact ⟨rfl, by simp [auth], words ["auth"] rfl (by decide)⟩

/-- The table of a menu with callable commands: callable ones, and the catch-all at the end. -/
theorem Table.exists_callable_front {menu : Menu} (levels : List Int)
    (callable : ∀ command ∈ menu.commands, command.Callable) :
    ∃ front, ofMenu menu levels = front ++ [catchAll] ∧ ∀ command ∈ front, command.Callable := by
  obtain ⟨front, same, members⟩ :=
    exists_ofMenu_eq_append levels fun command declared => (callable command declared).named
  refine ⟨front, same, fun command present => ?_⟩
  rcases members command present with declared | called
  · exact callable command declared
  · exact callable_of_mem_named called

/-- What a declared command may bring into the process routines of its menu: texts of one line, and
bodies without a line that ends an arm and without a label that ends a block. -/
structure Command.StaysInLine (menu : String) (command : Command) : Prop
    extends command.Callable where
  description : Text.IsUnbroken command.description
  args : ∀ arg ∈ command.args, arg.IsUnbroken
  access : ∀ access, command.access = some access → Text.IsUnbroken access.display
  bash : ∀ body, command.bashBody = some body → ∀ line ∈ body.lines, Bash.KeepsArm line
  batch : ∀ body, command.batchBody = some body → ∀ line ∈ body.lines,
    ∀ row ∈ Text.splitAt '\n' line, ∀ number,
      Batch.labelRow? row ≠ some (Batch.endCommand menu number)

theorem Command.StaysInLine.isUnbroken {menu : String} {command : Command}
    (tame : command.StaysInLine menu) : command.IsUnbroken :=
  ⟨fun name listed => (tame.quotable name listed).isUnbroken, tame.args, tame.access⟩

theorem Table.isUnbroken_description_of_mem_builtins {command : Command} {menu : String}
    {levels : List Int} (named : Text.IsUnbroken menu) (present : command ∈ builtins menu levels) :
    Text.IsUnbroken command.description := by
  rw [builtins_eq_append, List.mem_append, List.mem_singleton] at present
  rcases present with called | rfl
  · rcases eq_of_mem_named called with rfl | rfl | rfl | rfl
    · decide
    · decide
    · exact (Text.IsUnbroken.append (by decide) named).append (by decide)
    · exact (by decide : Text.IsUnbroken "Authenticate to an access level.")
  · decide

theorem Command.inline_of_resolve {command : Command} {dialect : Dialect} {fragments : Fragments}
    {body : Inline} (resolved : command.resolve dialect fragments = .inline body) :
    command.builtin = none ∧ command.inline dialect = some body := by
  unfold Command.resolve at resolved
  split at resolved
  · cases resolved
  · next free =>
      split at resolved
      · cases resolved
      · split at resolved
        · next given =>
            cases resolved
            exact ⟨free, given⟩
        · cases resolved

/-- A body of the document is that of a declared command. -/
theorem Table.mem_commands_of_inline {menu : Menu} {levels : List Int} {command : Command}
    (present : command ∈ ofMenu menu levels) {dialect : Dialect} {fragments : Fragments}
    {body : Inline} (resolved : command.resolve dialect fragments = .inline body) :
    command ∈ menu.commands ∧ command.inline dialect = some body := by
  obtain ⟨free, given⟩ := Command.inline_of_resolve resolved
  refine ⟨(mem_ofMenu present).resolve_right fun builtin => ?_, given⟩
  exact (plain_of_mem_builtins builtin).1 free

theorem findIdx?_congr {α : Type} {xs : List α} {left right : α → Bool}
    (same : ∀ x ∈ xs, left x = right x) : xs.findIdx? left = xs.findIdx? right := by
  induction xs with
  | nil => rfl
  | cons x xs ih =>
      rw [List.findIdx?_cons, List.findIdx?_cons, same x List.mem_cons_self,
        ih fun y later => same y (List.mem_cons_of_mem x later)]

theorem findIdx?_answers {front : List Command} (callable : ∀ command ∈ front, command.Callable)
    (token : String) :
    (front ++ [Table.catchAll]).findIdx? (·.answers token) =
      front.findIdx? (·.names.contains token) := by
  have last : [Table.catchAll].findIdx? (·.answers token) = none := rfl
  rw [List.findIdx?_append, last, Option.map_none, Option.or_none]
  refine findIdx?_congr fun command present => ?_
  simp [Command.answers, (callable command present).proper]

/-! ## Reading the routines -/

namespace Bash

/-- The lines of the arm at that place run. -/
def Runs (plan : MenuPlan) (token : String) (place : Nat) (planned : PlannedCommand) : Prop :=
  dispatch? token (processRoutine plan).code =
    some ⟨(arm plan planned).bodyRows, (Arm.bodyIndent ++ ";;")
      :: (((arms plan).drop (place + 1)).flatMap Arm.rows ++ ["esac"])⟩

def invalidCommandRows : List String :=
  ["        error \"\\\"$\x7bparts[0]\x7d\\\" is not a valid command.\"", "        return 1"]

/-- The error is reported, and nothing comes after it. -/
def Rejects (plan : MenuPlan) (token : String) : Prop :=
  dispatch? token (processRoutine plan).code = some ⟨invalidCommandRows, ["        ;;", "esac"]⟩

section Front

variable {menu : Menu} {levels : List Int} {front : List Command}
  (shape : Table.ofMenu menu levels = front ++ [Table.catchAll])
  (callable : ∀ command ∈ front, command.Callable) (fragments : Fragments) (token : String)

include shape

theorem arms_getElem? {place : Nat} {command : Command}
    (found : (front ++ [Table.catchAll])[place]? = some command) :
    (arms (MenuPlan.ofMenu menu levels .bash fragments))[place]? =
      some (arm (MenuPlan.ofMenu menu levels .bash fragments)
        ⟨command, command.resolve .bash fragments⟩) := by
  rw [← shape] at found
  simp [arms, MenuPlan.ofMenu, found]

include callable

theorem findIdx?_front : (arms (MenuPlan.ofMenu menu levels .bash fragments)).findIdx?
      (·.pattern.takes token) =
    some ((front.findIdx? (·.names.contains token)).getD front.length) := by
  have last : [Table.catchAll].findIdx?
      (fun command => command.isCatchAll || command.names.contains token) = some 0 := rfl
  have proper : front.findIdx? (fun command => command.isCatchAll || command.names.contains token) =
      front.findIdx? (·.names.contains token) :=
    findIdx?_congr fun command present => by simp [(callable command present).proper]
  rw [findIdx?_arms, MenuPlan.ofMenu, List.findIdx?_map, shape]
  simp only [Function.comp_def]
  rw [List.findIdx?_append, last, proper]
  cases front.findIdx? (·.names.contains token) with
  | none => simp
  | some place => rfl

variable {fragments token}
  (readable : ∀ arm ∈ arms (MenuPlan.ofMenu menu levels .bash fragments), arm.IsReadable)

include readable

theorem runs_of_first {place : Nat} {command : Command}
    (first : front.findIdx? (·.names.contains token) = some place)
    (found : front[place]? = some command) :
    Runs (MenuPlan.ofMenu menu levels .bash fragments) token place
      ⟨command, command.resolve .bash fragments⟩ := by
  obtain ⟨short, _⟩ := List.findIdx?_eq_some_iff_getElem.1 first
  have chosen := findIdx?_front shape callable fragments token
  rw [first] at chosen
  exact dispatch?_processRoutine readable chosen
    (arms_getElem? shape fragments (by rw [List.getElem?_append_left short, found]))

theorem rejects_of_none (none : front.findIdx? (·.names.contains token) = none) :
    Rejects (MenuPlan.ofMenu menu levels .bash fragments) token := by
  have chosen := findIdx?_front shape callable fragments token
  have last := arms_getElem? shape fragments
    (show (front ++ [Table.catchAll])[front.length]? = some Table.catchAll by simp)
  have count : (arms (MenuPlan.ofMenu menu levels .bash fragments)).length = front.length + 1 := by
    simp [arms, MenuPlan.ofMenu, shape]
  have body : (arm (MenuPlan.ofMenu menu levels .bash fragments)
      ⟨Table.catchAll, Table.catchAll.resolve .bash fragments⟩).bodyRows = invalidCommandRows := by
    show (([.line "error \"\\\"$\x7bparts[0]\x7d\\\" is not a valid command.\"",
      .line "return 1"] : List Statement).flatMap Statement.lines).flatMap _ = _
    decide +kernel
  rw [none, Option.getD_none] at chosen
  rw [Rejects, dispatch?_processRoutine readable chosen last, ← count, List.drop_length, body]
  rfl

end Front

end Bash

namespace Batch

/-- Only the catch-all has no block, so the places of the table are those of the blocks. -/
theorem blocks_front {menu : Menu} {levels : List Int} {front : List Command}
    (shape : Table.ofMenu menu levels = front ++ [Table.catchAll])
    (callable : ∀ command ∈ front, command.Callable) {fragments : Fragments} {blocks : List Block}
    (written : Batch.blocks (MenuPlan.ofMenu menu levels .batch fragments) levels = .ok blocks) :
    List.Forall₂ (fun entry block =>
        Batch.block (MenuPlan.ofMenu menu levels .batch fragments) levels entry.2
          ⟨entry.1, entry.1.resolve .batch fragments⟩ = .ok block) front.zipIdx blocks := by
  have kept : ((MenuPlan.ofMenu menu levels .batch fragments).commands.zipIdx.filter
      fun entry => !entry.1.command.isCatchAll) =
      front.zipIdx.map fun entry => (⟨entry.1, entry.1.resolve .batch fragments⟩, entry.2) := by
    have all : ∀ entry ∈ front.zipIdx, (!entry.1.isCatchAll) = true := by
      intro entry present
      simp [(callable entry.1 (List.fst_mem_of_mem_zipIdx present)).proper]
    rw [MenuPlan.ofMenu, shape]
    simp only
    rw [List.zipIdx_map, List.filter_map, List.zipIdx_append, List.filter_append]
    simp only [Function.comp_def, Prod.map]
    have last : ([Table.catchAll].zipIdx (0 + front.length)).filter
        (fun entry => !entry.1.isCatchAll) = [] := rfl
    rw [List.filter_eq_self.2 all, last, List.append_nil]
    rfl
  have each : List.Forall₂ (fun entry block =>
      Batch.block (MenuPlan.ofMenu menu levels .batch fragments) levels entry.2 entry.1 = .ok block)
      ((MenuPlan.ofMenu menu levels .batch fragments).commands.zipIdx.filter
        fun entry => !entry.1.command.isCatchAll) blocks := forall₂_of_mapM_eq_ok written
  rw [kept] at each
  exact List.forall₂_map_left_iff.1 each

/-- A run that finds the variables as they are goes on with the body of the block at that place. -/
def Runs (plan : MenuPlan) (levels : List Int) (routine : Routine) (env : Environment)
    (token : String) (place : Nat) (planned : PlannedCommand) : Prop :=
  ∃ blocks block after, Batch.blocks plan levels = .ok blocks ∧ blocks[place]? = some block ∧
    Batch.block plan levels place planned = .ok block ∧
    reach? token env none (Text.splitAt '\n' routine.code) =
      some ⟨true, after, block.rowsFromBody (blocks.drop (place + 1))⟩

/-- The message is set, and what is left to do is to report the error. -/
def Rejects (routine : Routine) (env : Environment) (token : String) : Prop :=
  ∃ after : Environment, reach? token env none (Text.splitAt '\n' routine.code) =
      some ⟨false, after, ["set func=error", "call :func_error", "exit /b 1"]⟩ ∧
    after.get "errMsg" = "\"" ++ token ++ "\" is not a valid command."

/-- Each block serves the command at its place of the table. -/
theorem serves_front {plan : MenuPlan} {levels : List Int} {fragments : Fragments}
    {front : List Command} {blocks : List Block}
    (serving : ∀ command ∈ front, ∀ place, Ends (Block.Serves command) (fun _ => True)
      (Batch.block plan levels place ⟨command, command.resolve .batch fragments⟩))
    (written : List.Forall₂ (fun entry block => Batch.block plan levels entry.2
      ⟨entry.1, entry.1.resolve .batch fragments⟩ = .ok block) front.zipIdx blocks) :
    List.Forall₂ Block.Serves front blocks := by
  have each : List.Forall₂ (fun entry block => Block.Serves entry.1 block) front.zipIdx blocks := by
    refine ((List.forall₂_and_left _ _).2 ⟨fun entry listed => listed, written⟩).imp ?_
    rintro entry block ⟨listed, done⟩
    exact (serving entry.1 (List.fst_mem_of_mem_zipIdx listed) entry.2).of_eq_ok done
  rw [← List.forall₂_map_left_iff (f := Prod.fst) (R := Block.Serves)] at each
  rwa [List.zipIdx_map_fst] at each

end Batch

theorem forall₂_getElem? {α β : Type} {related : α → β → Prop} {xs : List α} {ys : List β}
    (all : List.Forall₂ related xs ys) {place : Nat} {x : α} (found : xs[place]? = some x) :
    ∃ y, ys[place]? = some y ∧ related x y := by
  induction all generalizing place with
  | nil => cases found
  | cons first _ ih =>
      cases place with
      | zero =>
          cases found
          exact ⟨_, rfl, first⟩
      | succ place => exact ih found

/-! ## Menus -/

section Tame

variable {menu : Menu} {levels : List Int} (named : Text.IsUnbroken menu.name)
  (tame : ∀ command ∈ menu.commands, command.StaysInLine menu.name)

include named tame

theorem Table.isUnbroken_description_of_mem {command : Command}
    (present : command ∈ ofMenu menu levels) : Text.IsUnbroken command.description :=
  (mem_ofMenu present).elim (fun declared => (tame command declared).description)
    (isUnbroken_description_of_mem_builtins named)

omit named in
theorem Table.isUnbroken_of_tame {command : Command} (present : command ∈ ofMenu menu levels) :
    command.IsUnbroken :=
  isUnbroken_of_mem (fun command declared => (tame command declared).isUnbroken) present

theorem Bash.isReadable_of_tame (levels : List Int) (fragments : Fragments) :
    ∀ arm ∈ arms (MenuPlan.ofMenu menu levels .bash fragments), arm.IsReadable := by
  intro arm present
  obtain ⟨planned, listed, rfl⟩ := List.mem_map.1 present
  obtain ⟨inside, resolved⟩ := MenuPlan.mem_commands listed
  refine isReadable_arm named (fun _ => Table.isUnbroken_of_tame tame)
    (fun _ => Table.isUnbroken_description_of_mem named tame) inside fun body here => ?_
  obtain ⟨declared, given⟩ := Table.mem_commands_of_inline inside (resolved.symm.trans here)
  exact (tame planned.command declared).bash body given

theorem Batch.serves_of_tame (fragments : Fragments) {command : Command}
    (present : command ∈ Table.ofMenu menu levels) (place : Nat) :
    Ends (Block.Serves command) (fun _ => True)
      (Batch.block (MenuPlan.ofMenu menu levels .batch fragments) levels place
        ⟨command, command.resolve .batch fragments⟩) := by
  refine serves_of_block named (Table.isUnbroken_description_of_mem named tame present)
    (Table.isUnbroken_of_tame tame present) fun body here => ?_
  obtain ⟨declared, given⟩ := Table.mem_commands_of_inline present here
  exact (tame command declared).batch body given

end Tame

/-- Has an alias of the built-in help, and one that a shell would take apart without quotes. -/
def askingCommand : Command where
  name := "ask"
  description := "Ask."
  aliases := [.str "?", .str "a&b"]
  args := [{ name := "topic" }]
  bashBody := some (.single "echo")
  batchBody := some (.single "echo")

def askingMenu : Menu where
  name := "main"
  commands := [askingCommand]

def askingDocument : Json :=
  demoDocument [("ask", .obj [("description", .str "Ask."),
    ("aliases", .arr [.str "?", .str "a&b"]), ("args", .obj [("topic", .obj [])]),
    ("bashCommand", .str "echo"), ("batchCommand", .str "echo")])] []

def askingSpec : Spec :=
  demoSpec [askingCommand] []

theorem askingCommand_staysInLine : askingCommand.StaysInLine "main" where
  proper := rfl
  named := by decide
  quotable := by decide
  description := by decide
  args := List.forall_mem_singleton.2 ⟨by decide, fun _ => by decide +kernel, nofun, nofun⟩
  access := nofun
  bash := by
    rintro body ⟨⟩
    exact List.forall_mem_singleton.2 (by decide +kernel)
  batch := by
    rintro body ⟨⟩
    refine List.forall_mem_singleton.2 fun row listed number => ?_
    have only : row = "echo" := List.mem_singleton.1
      (Text.splitAt_of_not_mem (show '\n' ∉ "echo".toList by decide) ▸ listed)
    simp [only, Batch.labelRow?, Batch.isIndent]

/-- The description goes on with an arm for every token, and without it with a remark. -/
def spillingCommand : Command where
  name := "go"
  description := "Go.\n    *)\n        ;;\n    # Go."
  bashBody := some (.single "echo")
  batchBody := some (.single "echo")

def spillingMenu : Menu where
  name := "main"
  commands := [spillingCommand]

def spillingDocument : Json :=
  demoDocument [("go", .obj [
    ("description", .str "Go.\n    *)\n        ;;\n    # Go."),
    ("bashCommand", .str "echo"), ("batchCommand", .str "echo")])] []

def spillingSpec : Spec :=
  demoSpec [spillingCommand] []

theorem Bash.dispatch?_spilling : ∃ rest, Bash.dispatch? "go"
    (Bash.processRoutine (MenuPlan.ofMenu spillingMenu [] .bash ⟨"sh", []⟩)).code =
      some ⟨[], rest⟩ := by
  have rows : (Bash.arm (MenuPlan.ofMenu spillingMenu [] .bash ⟨"sh", []⟩)
      ⟨spillingCommand, .inline (.single "echo")⟩).rows = ["    # Go.", "    *)", "        ;;",
        "    # Go.", "    \"go\")", "        echo", "        ;;"] := by
    decide +kernel
  have remark : Bash.isRemark "    # Go." = true := by decide +kernel
  have plain : Bash.isRemark "    *)" = false := by decide +kernel
  have pattern : Bash.pattern? "    *)" = some .anything := by decide +kernel
  have ends : Bash.endsArm "        ;;" = true := by decide +kernel
  obtain ⟨others, arms⟩ : ∃ others, Bash.arms (MenuPlan.ofMenu spillingMenu [] .bash ⟨"sh", []⟩) =
      Bash.arm (MenuPlan.ofMenu spillingMenu [] .bash ⟨"sh", []⟩)
        ⟨spillingCommand, .inline (.single "echo")⟩ :: others := ⟨_, rfl⟩
  rw [Bash.dispatch?, Bash.rows_processRoutine, arms, List.flatMap_cons, rows]
  simp [Bash.taken?, remark, plain, pattern, Bash.ArmPattern.takes, ends]

theorem Batch.reach?_spilling {routine : Batch.Routine}
    (done : Batch.processRoutine (MenuPlan.ofMenu spillingMenu [] .batch ⟨"bat", []⟩) [] =
      .ok routine) (env : Batch.Environment) :
    ∃ rest, Batch.reach? "go" env none (Text.splitAt '\n' routine.code) =
      some ⟨false, env, "    *)" :: rest⟩ := by
  have spilled : (Batch.block (MenuPlan.ofMenu spillingMenu [] .batch ⟨"bat", []⟩) [] 0
      ⟨spillingCommand, .inline (.single "echo")⟩).toOption.any (fun block =>
        (Batch.rows block.statements).take 2 = [": Go.", "    *)"]) = true := by
    decide +kernel
  obtain ⟨blocks, made, code⟩ := Batch.rows_code_processRoutine done
  obtain ⟨first, others, here, _, rfl⟩ :=
    List.forall₂_cons_left_iff.1 (forall₂_of_mapM_eq_ok made)
  have same : Batch.block (MenuPlan.ofMenu spillingMenu [] .batch ⟨"bat", []⟩) [] 0
    ⟨spillingCommand, .inline (.single "echo")⟩ = .ok first := here
  rw [same] at spilled
  have front := of_decide_eq_true spilled
  have rows : Batch.rows first.statements =
      ": Go." :: "    *)" :: (Batch.rows first.statements).drop 2 := by
    conv_lhs => rw [← List.take_append_drop 2 (Batch.rows first.statements), front]
    rfl
  have remark : Batch.step "go" env ": Go." = .pass env := Batch.step_aside " Go."
  have runs : Batch.step "go" env "    *)" = .other :=
    Batch.step_other (by decide) (by decide +kernel) (by decide +kernel)
  rw [code, Batch.processStatements, List.flatMap_cons, List.append_assoc, Batch.rows_append,
    rows, List.cons_append, List.cons_append, Batch.reach?_pass remark]
  simp only [Batch.reach?, runs]
  exact ⟨_, rfl⟩

end ShellMenu
