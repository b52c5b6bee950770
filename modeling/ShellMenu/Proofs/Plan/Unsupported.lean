import ShellMenu.Artifact
import ShellMenu.Proofs.Bash.Case
import ShellMenu.Proofs.Spec.Demo
import ShellMenu.Proofs.Spec.Names
import ShellMenu.Proofs.Text.Reading
import ShellMenu.Schema.Description

/-
  The report of commands that a dialect has no body for, and the commands whose place in the script
  is taken by a stub. The report goes through the declared commands, the script through the table
  that the built-in commands were put into. They part where a declared command without a body is
  called like a built-in one: it is reported, and the built-in command runs in its place.
-/

namespace ShellMenu

/-! ## Tables -/

namespace Table

/-- The names that the built-in commands of a menu take. -/
def takenNames (levels : List Int) : List String :=
  ["clear", "exit", "help"] ++ (if levels.isEmpty then [] else ["auth"]) ++ ["*"]

theorem map_name_builtins (menu : String) (levels : List Int) :
    (builtins menu levels).map Command.name = takenNames levels := by
  cases levels with
  | nil => rfl
  | cons level rest => rfl

/-- A command that the filter drops takes away the one that it replaces, and no more. -/
theorem filter_put {keep : Command → Bool} {command : Command} (dropped : keep command = false)
    {table : List Command} (apart : (table.map Command.name).Nodup) :
    (put command table).filter keep =
      table.filter fun other => keep other && decide (other.name ≠ command.name) := by
  induction table with
  | nil => simp [put, dropped]
  | cons other rest ih =>
      obtain ⟨fresh, restApart⟩ := List.nodup_cons.1 apart
      simp only [put]
      split
      · next same =>
          have kept : ∀ later ∈ rest, keep later =
              (keep later && decide (later.name ≠ command.name)) := by
            intro later present
            have differs : later.name ≠ command.name := fun equal =>
              fresh (List.mem_map.2 ⟨later, present, equal.trans same.symm⟩)
            simp [differs]
          rw [List.filter_cons_of_neg (by simp [dropped]), List.filter_cons_of_neg (by simp [same])]
          exact List.filter_congr kept
      · next differs =>
          simp only [List.filter_cons, ih restApart, differs, ne_eq, not_false_eq_true,
            decide_true, Bool.and_true]

theorem filter_foldl_put {keep : Command → Bool} {commands table : List Command}
    (dropped : ∀ command ∈ commands, keep command = false)
    (apart : (table.map Command.name).Nodup) :
    (commands.foldl (fun table command => put command table) table).filter keep =
      table.filter fun other => keep other && decide (other.name ∉ commands.map Command.name) := by
  induction commands generalizing table with
  | nil => simp
  | cons command rest ih =>
      have later : ∀ other ∈ rest, keep other = false :=
        fun other present => dropped other (List.mem_cons_of_mem command present)
      rw [List.foldl_cons, ih later (nodup_put command apart),
        filter_put (by simp [dropped command List.mem_cons_self]) apart]
      refine List.filter_congr fun other _ => ?_
      simp only [List.map_cons, List.mem_cons, not_or, Bool.decide_and, Bool.and_assoc]
      rw [Bool.and_comm (decide (other.name ∉ _))]

theorem filter_ofMenu {keep : Command → Bool} {menu : Menu} {levels : List Int}
    (dropped : ∀ command ∈ builtins menu.name levels, keep command = false)
    (apart : (menu.commands.map Command.name).Nodup) :
    (ofMenu menu levels).filter keep = (menu.commands.filter keep).filter
      fun command => decide (command.name ∉ takenNames levels) := by
  rw [ofMenu, filter_foldl_put dropped apart, map_name_builtins, List.filter_filter]
  exact List.filter_congr fun command _ => Bool.and_comm _ _

end Table

/-! ## Stubs -/

/-- The commands of a menu that are planned without a body. -/
def MenuPlan.stubs (plan : MenuPlan) : List (String × String) :=
  (plan.commands.filter fun planned => !planned.isSupported).map fun planned =>
    (plan.name, planned.command.name)

/-- The commands that the script of a dialect has a stub for, each with its menu. -/
def Context.stubs (context : Context) (dialect : Dialect) : List (String × String) :=
  (context.spec.plans dialect (context.fragments dialect)).flatMap MenuPlan.stubs

theorem resolve_ne_unsupported {command : Command} (given : command.builtin ≠ none)
    (dialect : Dialect) (fragments : Fragments) :
    command.resolve dialect fragments ≠ .unsupported := by
  cases builtin : command.builtin with
  | none => exact absurd builtin given
  | some body => simp [Command.resolve, builtin]

theorem MenuPlan.stubs_ofMenu {menu : Menu} (apart : (menu.commands.map Command.name).Nodup)
    (levels : List Int) (dialect : Dialect) (fragments : Fragments) :
    (ofMenu menu levels dialect fragments).stubs =
      ((menu.commands.filter fun command => command.resolve dialect fragments = .unsupported).map
        fun command => (menu.name, command.name)).filter
          fun pair => pair.2 ∉ Table.takenNames levels := by
  have dropped : ∀ command ∈ Table.builtins menu.name levels,
      decide (command.resolve dialect fragments = .unsupported) = false := by
    intro command present
    exact decide_eq_false (resolve_ne_unsupported (Table.plain_of_mem_builtins present).1 _ _)
  have planned : ((fun planned : PlannedCommand => !planned.isSupported) ∘
      fun command => ⟨command, command.resolve dialect fragments⟩) =
      fun command => decide (command.resolve dialect fragments = .unsupported) := by
    funext command
    simp [PlannedCommand.isSupported]
  rw [stubs, ofMenu, List.filter_map, planned, Table.filter_ofMenu dropped apart, List.map_map,
    List.filter_map]
  rfl

theorem Context.stubs_eq {context : Context} (apart : context.spec.TellsApart) (dialect : Dialect) :
    context.stubs dialect =
      (context.unsupported dialect).filter
        fun pair => pair.2 ∉ Table.takenNames context.spec.levels := by
  rw [stubs, unsupported, Spec.unsupported, Spec.plans, List.flatMap_map, List.filter_flatMap]
  refine List.flatMap_congr fun menu declared => ?_
  exact MenuPlan.stubs_ofMenu (apart.commands menu declared) _ _ _

/-! ## Scripts -/

namespace Bash

def stubMessage (command : String) : String :=
  s!"The '{command}' command is not supported for {Dialect.platform .bash}."

/-- What stands in the place of a body. -/
def stub (command : String) : List Statement :=
  [.line (error (stubMessage command)), .line "return 1"]

theorem startsWith_stub (command : String) :
    Text.startsWith (error (stubMessage command)) "error \"T" = true := by
  simp [Text.startsWith, error, stubMessage, toList_doubleQuote, Escape.escapeChar, special,
    toString]

/-- A body that starts otherwise than with this error is not the stub. -/
theorem cons_ne_stub {first : Statement} {rest : List Statement} (command : String)
    (other : ∀ text, first = .line text → Text.startsWith text "error \"T" = false) :
    first :: rest ≠ stub command := by
  intro same
  have reported := other _ (List.cons.inj same).1
  exact Bool.false_ne_true (reported.symm.trans (startsWith_stub command))

theorem builtinBody_ne_stub (plan : MenuPlan) (builtin : Builtin) (command : String) :
    (builtinBody plan builtin).map Statement.line ≠ stub command := by
  cases builtin with
  | clear => simp [builtinBody, stub]
  | exit => exact cons_ne_stub command (by rintro text ⟨⟩; rfl)
  | help =>
      cases sections : plan.help with
      | nil => simp [builtinBody, helpLines, sections, stub]
      | cons part rest =>
          rw [builtinBody, helpLines, sections, List.flatMap_cons]
          by_cases free : part.level = 0
          · rw [if_pos free]
            refine cons_ne_stub command ?_
            rintro text ⟨⟩
            simp [Text.startsWith, List.isPrefixOf, toString]
          · rw [if_neg free]
            refine cons_ne_stub command ?_
            rintro text ⟨⟩
            simp [Text.startsWith, List.isPrefixOf, toString]
  | auth => exact cons_ne_stub command (by rintro text ⟨⟩; rfl)
  | catchAll => exact cons_ne_stub command (by rintro text ⟨⟩; rfl)

theorem arm_body_eq_stub_iff (plan : MenuPlan) (planned : PlannedCommand) :
    (arm plan planned).body = stub planned.command.name ↔ planned.body = .unsupported := by
  constructor
  · intro same
    by_contra supported
    have checked : planned.isSupported = true := by
      simpa [PlannedCommand.isSupported] using supported
    simp only [arm, checked, if_true] at same
    revert same
    cases planned.command.access with
    | some level => exact cons_ne_stub _ (by rintro text ⟨⟩)
    | none =>
        cases args : planned.command.args with
        | cons arg rest => exact cons_ne_stub _ (by rintro text ⟨⟩; rfl)
        | nil =>
            show bodyStatements plan planned ≠ _
            cases body : planned.body with
            | builtin builtin =>
                simp only [bodyStatements, body]
                exact builtinBody_ne_stub plan builtin _
            | fragment name => simp [bodyStatements, body, stub]
            | inline inline =>
                simp only [bodyStatements, body]
                cases inline.lines with
                | nil => simp [stub]
                | cons line rest => exact cons_ne_stub _ (by rintro text ⟨⟩)
            | unsupported => exact absurd body supported
  · intro bare
    simp [arm, PlannedCommand.isSupported, bare, bodyStatements, stub, stubMessage]

end Bash

namespace Batch

def stubMessage (command : String) : String :=
  s!"The '{command}' command is not supported for {Dialect.platform .batch}."

def stub (command : String) : List Statement :=
  (error (stubMessage command)).map .line ++ [.line "exit /b 1"]

theorem cons_ne_stub {first : Statement} {rest : List Statement} (command : String)
    (other : ∀ text, first = .line text → Text.startsWith text "set" = false) :
    first :: rest ≠ stub command := by
  intro same
  have reported := other _ (List.cons.inj same).1
  exact Bool.false_ne_true (reported.symm.trans (by
    simp [Text.startsWith, toString]))

theorem startsWith_echoLine (line : String) : Text.startsWith (echoLine line) "set" = false := by
  rw [echoLine]
  split
  · rfl
  · simp [Text.startsWith, List.isPrefixOf, toString]

theorem helpStatements_ne_stub (plan : MenuPlan) (command : String) :
    helpStatements plan ≠ stub command := by
  rw [helpStatements]
  cases plan.help with
  | nil => simp [stub, error]
  | cons part rest =>
      rw [List.flatMap_cons]
      by_cases free : part.level = 0
      · rw [if_pos free, echo]
        cases shown : Text.splitAt '\n' (escape (Text.trimEndNewlines part.text)) with
        | nil => exact absurd shown (Text.splitAt_ne_nil _ _)
        | cons line lines =>
            refine cons_ne_stub command ?_
            rintro text ⟨⟩
            exact startsWith_echoLine line
      · rw [if_neg free]
        exact cons_ne_stub command (by rintro text ⟨⟩)

theorem bodyStatements_ne_stub {planned : PlannedCommand} (supported : planned.body ≠ .unsupported)
    (plan : MenuPlan) (levels : List Int) (command : String) :
    Ends (· ≠ stub command) (fun _ => True) (bodyStatements plan levels planned) := by
  unfold bodyStatements
  simp only
  split
  · next builtin _ =>
      cases builtin with
      | clear => exact Ends.ok (cons_ne_stub command (by rintro text ⟨⟩))
      | exit => exact Ends.ok (cons_ne_stub command (by rintro text ⟨⟩; rfl))
      | help => exact Ends.ok (helpStatements_ne_stub plan command)
      | auth => exact Ends.ok (cons_ne_stub command (by rintro text ⟨⟩))
      | catchAll => exact trivial
  · exact Ends.ok (cons_ne_stub command (by rintro text ⟨⟩))
  · next inline _ =>
      cases lines : inline.lines with
      | nil => exact Ends.ok (by simp [stub, error])
      | cons line rest => exact Ends.ok (cons_ne_stub command (by rintro text ⟨⟩))
  · next bare => exact absurd bare supported

theorem block_body_eq_stub_iff (plan : MenuPlan) (levels : List Int) (index : Nat)
    (planned : PlannedCommand) :
    Ends (fun block => block.body = stub planned.command.name ↔ planned.body = .unsupported)
      (fun _ => True) (block plan levels index planned) := by
  unfold block
  simp only
  refine Ends.bind (Ends.any _) fun _ _ => ?_
  by_cases bare : planned.body = .unsupported
  · have unchecked : planned.isSupported = false := by simpa [PlannedCommand.isSupported] using bare
    simp only [bodyStatements, bare, unchecked]
    exact Ends.ok (iff_of_true rfl trivial)
  · refine Ends.bind (bodyStatements_ne_stub bare plan levels planned.command.name)
      fun body other => Ends.ok ?_
    refine iff_of_false ?_ bare
    have checked : planned.isSupported = true := by simpa [PlannedCommand.isSupported] using bare
    simp only [checked, if_true]
    cases planned.command.access with
    | some level => exact cons_ne_stub _ (by rintro text ⟨⟩)
    | none =>
        cases planned.command.args with
        | cons arg rest => exact cons_ne_stub _ (by rintro text ⟨⟩)
        | nil => exact other

end Batch

/-- The commands that a script has a stub for are those that are reported, in the same order, less
those that are called like a built-in command. So the report is right exactly if it has none of
these. The planned commands without a body are the ones that the stub is written for. -/
theorem unsupported_report_eq_stubs_iff (payload : Json) (source : String) (context : Context)
    (read : Spec.ofJson payload source = .ok context.spec) :
    (∀ dialect : Dialect,
      context.stubs dialect =
        (context.unsupported dialect).filter
          (fun pair => pair.2 ∉ Table.takenNames context.spec.levels) ∧
      (context.unsupported dialect = context.stubs dialect ↔
        ∀ pair ∈ context.unsupported dialect, pair.2 ∉ Table.takenNames context.spec.levels)) ∧
    (∀ plan ∈ context.spec.plans .bash context.bash, ∀ planned ∈ plan.commands,
      ((Bash.arm plan planned).body = Bash.stub planned.command.name ↔
        planned.body = .unsupported)) ∧
    ∀ plan ∈ context.spec.plans .batch context.batch, ∀ planned ∈ plan.commands,
      ∀ index block, Batch.block plan context.spec.levels index planned = .ok block →
        (block.body = Batch.stub planned.command.name ↔ planned.body = .unsupported) := by
  have apart := (Spec.ofJson_distinct payload source).of_eq_ok read
  refine ⟨fun dialect => ⟨context.stubs_eq apart dialect, ?_⟩, ?_, ?_⟩
  · rw [context.stubs_eq apart dialect, eq_comm, List.filter_eq_self]
    simp only [decide_eq_true_eq]
  · intro plan _ planned _
    exact Bash.arm_body_eq_stub_iff plan planned
  · intro plan _ planned _ index block made
    exact (Batch.block_body_eq_stub_iff plan _ index planned).of_eq_ok made

/-- Two commands without a body, and one of them has the name of a built-in command. -/
def bareDocument : Json :=
  demoDocument [("help", .obj [("description", .str "Help.")]),
    ("ask", .obj [("description", .str "Ask.")])] []

def bareContext : Context where
  spec := demoSpec
    [{ name := "help", description := "Help." }, { name := "ask", description := "Ask." }] []
  bash := { extension := "sh" }
  batch := { extension := "bat" }

theorem bareDocument_reports_its_help :
    Schema.description.violations bareDocument = [] ∧
    Spec.ofJson bareDocument "cli.json" = .ok bareContext.spec ∧
    ∀ dialect, bareContext.unsupported dialect = [("main", "help"), ("main", "ask")] ∧
      bareContext.stubs dialect = [("main", "ask")] ∧
      bareContext.unsupported dialect ≠ bareContext.stubs dialect := by
  have accepted : Schema.description.violations bareDocument = [] := by decide +kernel
  have read : Spec.ofJson bareDocument "cli.json" = .ok bareContext.spec := rfl
  refine ⟨accepted, read, fun dialect => ?_⟩
  obtain ⟨stubs, alike⟩ :=
    (unsupported_report_eq_stubs_iff bareDocument "cli.json" bareContext read).1 dialect
  have reported : bareContext.unsupported dialect = [("main", "help"), ("main", "ask")] := by
    cases dialect <;> rfl
  refine ⟨reported, ?_, fun same => ?_⟩
  · rw [stubs, reported]
    decide +kernel
  · have free := alike.1 same ("main", "help") (by simp [reported])
    exact free (by decide +kernel)

end ShellMenu
