import ShellMenu.Artifact
import ShellMenu.Proofs.Plan.Help

/-
  Each dialect is written from its own side of a description. The bodies for the other dialect
  are forgotten step by step, from the commands over the tables and the plans to the routines, and
  no step gives anything else than before.
-/

namespace ShellMenu

/-! ## Forgetting bodies -/

/-- Without the body for a dialect. -/
def Command.forget (dialect : Dialect) (command : Command) : Command :=
  match dialect with
  | .bash => { command with bashBody := none }
  | .batch => { command with batchBody := none }

def Menu.forget (dialect : Dialect) (menu : Menu) : Menu :=
  { menu with commands := menu.commands.map (Command.forget dialect) }

def Spec.forget (dialect : Dialect) (spec : Spec) : Spec :=
  { spec with menus := spec.menus.map (Menu.forget dialect) }

def PlannedCommand.forget (dialect : Dialect) (planned : PlannedCommand) : PlannedCommand :=
  { planned with command := planned.command.forget dialect }

def MenuPlan.forget (dialect : Dialect) (plan : MenuPlan) : MenuPlan :=
  { plan with
    menu := plan.menu.forget dialect
    commands := plan.commands.map (PlannedCommand.forget dialect) }

namespace Command

variable (dialect : Dialect) (command : Command)

@[simp] theorem forget_name : (command.forget dialect).name = command.name := by
  cases dialect <;> rfl

@[simp] theorem forget_description :
    (command.forget dialect).description = command.description := by
  cases dialect <;> rfl

@[simp] theorem forget_aliases : (command.forget dialect).aliases = command.aliases := by
  cases dialect <;> rfl

@[simp] theorem forget_args : (command.forget dialect).args = command.args := by
  cases dialect <;> rfl

@[simp] theorem forget_access : (command.forget dialect).access = command.access := by
  cases dialect <;> rfl

@[simp] theorem forget_visible : (command.forget dialect).visible = command.visible := by
  cases dialect <;> rfl

@[simp] theorem forget_script : (command.forget dialect).script = command.script := by
  cases dialect <;> rfl

@[simp] theorem forget_builtin : (command.forget dialect).builtin = command.builtin := by
  cases dialect <;> rfl

@[simp] theorem forget_names : (command.forget dialect).names = command.names := by
  simp [names]

@[simp] theorem forget_isCatchAll :
    (command.forget dialect).isCatchAll = command.isCatchAll := by
  simp [isCatchAll]

variable {dialect}

theorem forget_inline {other : Dialect} (apart : other ≠ dialect) :
    (command.forget other).inline dialect = command.inline dialect := by
  cases dialect with
  | bash =>
      cases other with
      | bash => exact absurd rfl apart
      | batch => rfl
  | batch =>
      cases other with
      | bash => rfl
      | batch => exact absurd rfl apart

/-- A body is looked for among the fragments and on the side of the dialect. -/
theorem resolve_forget {other : Dialect} (apart : other ≠ dialect) (fragments : Fragments) :
    (command.forget other).resolve dialect fragments = command.resolve dialect fragments := by
  simp only [resolve, Fragments.scriptOf?, forget_builtin, forget_script, forget_inline _ apart]

end Command

/-! ## Tables and help -/

namespace Table

theorem put_forget (dialect : Dialect) (command : Command) (table : List Command) :
    put (command.forget dialect) (table.map (Command.forget dialect)) =
      (put command table).map (Command.forget dialect) := by
  induction table with
  | nil => rfl
  | cons other rest ih =>
      simp only [put, List.map_cons, Command.forget_name]
      split
      · rfl
      · rw [ih, List.map_cons]

theorem forget_of_mem_builtins {command : Command} {menu : String} {levels : List Int}
    (present : command ∈ builtins menu levels) (dialect : Dialect) :
    command.forget dialect = command := by
  rw [builtins_eq_append, List.mem_append, List.mem_singleton] at present
  rcases present with called | rfl
  · rcases eq_of_mem_named called with rfl | rfl | rfl | rfl <;> cases dialect <;> rfl
  · cases dialect <;> rfl

theorem foldl_put_forget (dialect : Dialect) (commands table : List Command)
    (plain : ∀ command ∈ commands, command.forget dialect = command) :
    commands.foldl (fun table command => put command table) (table.map (Command.forget dialect)) =
      (commands.foldl (fun table command => put command table) table).map
        (Command.forget dialect) := by
  induction commands generalizing table with
  | nil => rfl
  | cons command rest ih =>
      have same := put_forget dialect command table
      rw [plain command List.mem_cons_self] at same
      rw [List.foldl_cons, List.foldl_cons, same,
        ih (put command table) fun other present => plain other (List.mem_cons_of_mem _ present)]

theorem ofMenu_forget (dialect : Dialect) (menu : Menu) (levels : List Int) :
    ofMenu (menu.forget dialect) levels = (ofMenu menu levels).map (Command.forget dialect) :=
  foldl_put_forget dialect _ _ fun _ present => forget_of_mem_builtins present dialect

end Table

theorem Command.checkScript_forget (dialect : Dialect) (command : Command) :
    (command.forget dialect).checkScript = command.checkScript := by
  simp only [checkScript, forget_builtin, forget_script]

namespace Help

variable (dialect : Dialect)

theorem term_forget (command : Command) : term (command.forget dialect) = term command := by
  simp [term]

theorem line_forget (width : Nat) (command : Command) :
    line width (command.forget dialect) = line width command := by
  simp [line, term_forget]

theorem render_forget (heading : String) (commands : List Command) :
    render heading (commands.map (Command.forget dialect)) = render heading commands := by
  simp [render, Function.comp_def, term_forget, line_forget]

theorem check_forget (commands : List Command) :
    check (commands.map (Command.forget dialect)) = check commands := by
  simp [check, Command.namesAreText, Function.comp_def]

theorem lists_forget (files : List String) (extension : String) (level : Int)
    (command : Command) :
    lists files extension level (command.forget dialect) = lists files extension level command := by
  simp [lists, Command.isHidden]

end Help

/-! ## Plans -/

namespace MenuPlan

variable (dialect : Dialect)

theorem listed_forget (table : List Command) (fragments : Fragments) (level : Int) :
    listed (table.map (Command.forget dialect)) fragments level =
      (listed table fragments level).map (Command.forget dialect) := by
  simp [listed, Help.listed, List.filter_map, Function.comp_def, Help.lists_forget]

theorem helpSections_forget (menu : String) (table : List Command) (fragments : Fragments)
    (levels : List Int) :
    helpSections menu (table.map (Command.forget dialect)) fragments levels =
      helpSections menu table fragments levels := by
  simp only [helpSections_eq, listed_forget, Help.render_forget, List.isEmpty_map]

theorem check_forget (menu : Menu) (levels : List Int) (fragments : Fragments) :
    check (menu.forget dialect) levels fragments = check menu levels fragments := by
  simp only [check, Table.ofMenu_forget, listed_forget, Help.check_forget, List.forM_eq_forM,
    List.forM_map, Command.checkScript_forget]

variable {dialect}

/-- The plan of one dialect keeps all that it has when the bodies for another are forgotten. -/
theorem ofMenu_forget {other : Dialect} (apart : other ≠ dialect) (menu : Menu)
    (levels : List Int) (fragments : Fragments) :
    ofMenu (menu.forget other) levels dialect fragments =
      (ofMenu menu levels dialect fragments).forget other := by
  simp only [ofMenu, forget, Table.ofMenu_forget, helpSections_forget, List.map_map,
    Function.comp_def, Command.resolve_forget _ apart]
  rfl

theorem fragments_forget (plan : MenuPlan) :
    (plan.forget dialect).fragments =
      plan.fragments.map fun (command, name) => (command.forget dialect, name) := by
  simp only [fragments, forget, List.filterMap_map, List.map_filterMap]
  refine List.filterMap_congr fun planned _ => ?_
  simp only [Function.comp_apply, PlannedCommand.forget]
  cases planned.body <;> rfl

end MenuPlan

theorem Spec.plans_forget {dialect other : Dialect} (apart : other ≠ dialect) (spec : Spec)
    (fragments : Fragments) :
    (spec.forget other).plans dialect fragments =
      (spec.plans dialect fragments).map (MenuPlan.forget other) := by
  simp only [plans, forget, List.map_map, Function.comp_def, MenuPlan.ofMenu_forget apart]
  rfl

theorem Spec.checkPlans_forget (dialect : Dialect) (spec : Spec) (fragments : Fragments) :
    (spec.forget dialect).checkPlans fragments = spec.checkPlans fragments := by
  simp only [checkPlans, forget, List.forM_eq_forM, List.forM_map, MenuPlan.check_forget]
  rfl

/-! ## Routines -/

namespace Bash

variable (dialect : Dialect)

theorem fragmentRoutines_forget (fragments : Fragments) (plan : MenuPlan) :
    fragmentRoutines fragments (plan.forget dialect) = fragmentRoutines fragments plan := by
  simp only [fragmentRoutines, MenuPlan.fragments_forget, List.mapM_map, Function.comp_def,
    Command.forget_name, Command.forget_description, Command.forget_args]
  rfl

theorem arm_forget (plan : MenuPlan) (planned : PlannedCommand) :
    arm (plan.forget dialect) (planned.forget dialect) = arm plan planned := by
  cases dialect <;> rfl

theorem checkArm_forget (planned : PlannedCommand) :
    checkArm (planned.forget dialect) = checkArm planned := by
  cases dialect <;> rfl

theorem arms_forget (plan : MenuPlan) : arms (plan.forget dialect) = arms plan := by
  show (plan.commands.map (PlannedCommand.forget dialect)).map (arm (plan.forget dialect)) =
    plan.commands.map (arm plan)
  rw [List.map_map]
  exact List.map_congr_left fun planned _ => arm_forget dialect plan planned

theorem checkMenu_forget (plan : MenuPlan) :
    checkMenu (plan.forget dialect) = checkMenu plan := by
  simp only [checkMenu, MenuPlan.forget, List.forM_eq_forM, List.forM_map, checkArm_forget]
  rfl

theorem menuRoutines_forget (renderer : Banner.Renderer) (plan : MenuPlan) :
    menuRoutines renderer (plan.forget dialect) = menuRoutines renderer plan := by
  have process : processRoutine (plan.forget dialect) = processRoutine plan := by
    rw [processRoutine, arms_forget]
    rfl
  rw [menuRoutines, checkMenu_forget, process]
  rfl

/-- Nothing of the other dialect's bodies gets into the script. -/
theorem script_forget (spec : Spec) (fragments : Fragments) (renderer : Banner.Renderer) :
    script (spec.forget .batch) fragments renderer = script spec fragments renderer := by
  simp only [script, Spec.checkPlans_forget, Spec.plans_forget (by decide : Dialect.batch ≠ .bash),
    List.mapM_map, Function.comp_def, fragmentRoutines_forget, menuRoutines_forget]
  rfl

end Bash

namespace Batch

variable (dialect : Dialect)

theorem fragmentRoutines_forget (fragments : Fragments) (plan : MenuPlan) :
    fragmentRoutines fragments (plan.forget dialect) = fragmentRoutines fragments plan := by
  simp only [fragmentRoutines, MenuPlan.fragments_forget, List.mapM_map, Function.comp_def,
    Command.forget_name, Command.forget_description, Command.forget_args]
  rfl

theorem block_forget (plan : MenuPlan) (levels : List Int) (index : Nat)
    (planned : PlannedCommand) :
    block (plan.forget dialect) levels index (planned.forget dialect) =
      block plan levels index planned := by
  cases dialect <;> rfl

theorem blocks_forget (plan : MenuPlan) (levels : List Int) :
    blocks (plan.forget dialect) levels = blocks plan levels := by
  simp only [blocks, MenuPlan.forget, List.zipIdx_map, List.filter_map, List.mapM_map,
    Function.comp_def, Prod.map, id, PlannedCommand.forget, Command.forget_isCatchAll]
  exact congrArg (List.mapM · _) (funext fun (planned, index) =>
    block_forget dialect plan levels index planned)

theorem menuRoutines_forget (renderer : Banner.Renderer) (levels : List Int) (plan : MenuPlan) :
    menuRoutines renderer levels (plan.forget dialect) = menuRoutines renderer levels plan := by
  have process : processRoutine (plan.forget dialect) levels = processRoutine plan levels := by
    rw [processRoutine, blocks_forget]
    rfl
  rw [menuRoutines, process]
  rfl

/-- Nothing of the other dialect's bodies gets into the script. -/
theorem script_forget (spec : Spec) (fragments : Fragments) (renderer : Banner.Renderer) :
    script (spec.forget .bash) fragments renderer = script spec fragments renderer := by
  simp only [script, Spec.checkPlans_forget, Spec.plans_forget (by decide : Dialect.bash ≠ .batch),
    List.mapM_map, Function.comp_def, fragmentRoutines_forget, menuRoutines_forget]
  rfl

end Batch

/-! ## Builds -/

theorem Context.exists_scripts {context : Context} {renderer : Banner.Renderer} {written : Scripts}
    (done : context.scripts renderer = .ok written) :
    ∃ bash batch, Bash.script context.spec context.bash renderer = .ok bash ∧
      Batch.script context.spec context.batch renderer = .ok batch ∧
      written = ⟨bash.source, batch.source⟩ := by
  obtain ⟨bash, bashDone, rest⟩ := exists_of_bind_eq_ok done
  obtain ⟨batch, batchDone, same⟩ := exists_of_bind_eq_ok rest
  cases same
  exact ⟨bash, batch, bashDone, batchDone, rfl⟩

/-- Two builds whose specs differ in the bodies for one dialect alone write the script of the other
dialect alike, or fail at it alike, whatever fragments the first dialect has. -/
theorem dialects_do_not_interfere (left right : Context) (renderer : Banner.Renderer) :
    (left.spec.forget .batch = right.spec.forget .batch → left.bash = right.bash →
      Bash.script left.spec left.bash renderer = Bash.script right.spec right.bash renderer ∧
      ∀ written rewritten, left.scripts renderer = .ok written →
        right.scripts renderer = .ok rewritten → written.bash = rewritten.bash) ∧
    (left.spec.forget .bash = right.spec.forget .bash → left.batch = right.batch →
      Batch.script left.spec left.batch renderer = Batch.script right.spec right.batch renderer ∧
      ∀ written rewritten, left.scripts renderer = .ok written →
        right.scripts renderer = .ok rewritten → written.batch = rewritten.batch) := by
  constructor
  · intro agree fragments
    have same : Bash.script left.spec left.bash renderer =
        Bash.script right.spec right.bash renderer := by
      rw [← Bash.script_forget left.spec, agree, Bash.script_forget, fragments]
    refine ⟨same, fun written rewritten first second => ?_⟩
    obtain ⟨bash, _, leftDone, _, rfl⟩ := Context.exists_scripts first
    obtain ⟨again, _, rightDone, _, rfl⟩ := Context.exists_scripts second
    cases leftDone.symm.trans (same.trans rightDone)
    rfl
  · intro agree fragments
    have same : Batch.script left.spec left.batch renderer =
        Batch.script right.spec right.batch renderer := by
      rw [← Batch.script_forget left.spec, agree, Batch.script_forget, fragments]
    refine ⟨same, fun written rewritten first second => ?_⟩
    obtain ⟨_, batch, _, leftDone, rfl⟩ := Context.exists_scripts first
    obtain ⟨_, again, _, rightDone, rfl⟩ := Context.exists_scripts second
    cases leftDone.symm.trans (same.trans rightDone)
    rfl

/-- One gated command, with a body or a fragment for each dialect. -/
def listingContext (bashBody batchBody : Option Inline) (bash batch : List (String × String)) :
    Context where
  spec := {
    title := .str "Demo"
    uri := .str "demo.dev"
    description := none
    mainMenu := "main"
    menus := [{
      name := "main"
      commands := [{ name := "list", description := "List.", access := some (.int 1),
                     script := some (.str "list"), bashBody, batchBody }] }]
    auth := AuthTable.ofList [⟨1, .str "hash", "da39a3ee5e6b4b0d3255bfef95601890afd80709"⟩] }
  bash := ⟨"sh", bash⟩
  batch := ⟨"bat", batch⟩

/-- A batch fragment comes and a batch body goes, and then the same in bash. -/
theorem listingContext_scripts_apart :
    let plain := listingContext (some (.single "ls")) (some (.single "dir")) [] []
    let windows := listingContext (some (.single "ls")) none [] [("list", "dir /w")]
    let unix := listingContext (some (.multi ["ls", "ls -a"])) (some (.single "dir"))
      [("list", "ls -l")] []
    Bash.script plain.spec plain.bash Banner.noFonts =
      Bash.script windows.spec windows.bash Banner.noFonts ∧
    Batch.script plain.spec plain.batch Banner.noFonts =
      Batch.script unix.spec unix.batch Banner.noFonts := by
  intro plain windows unix
  exact ⟨((dialects_do_not_interfere plain windows Banner.noFonts).1 rfl rfl).1,
    ((dialects_do_not_interfere plain unix Banner.noFonts).2 rfl rfl).1⟩

end ShellMenu
