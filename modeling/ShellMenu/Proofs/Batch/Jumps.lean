import ShellMenu.Proofs.Batch.Labels
import ShellMenu.Proofs.Batch.Lines
import ShellMenu.Proofs.Build.Totality
import ShellMenu.Proofs.Plan.Help
import ShellMenu.Proofs.Spec.Demo

/-
  The jumps of a process routine. Its sections lie side by side or inside one another, a jump skips
  a section, and it leads to the label at the end of that section. The labels are known from the
  plan of the menu, and no two of them are the same. Where no text brings a line feed into the
  routine, they are also the labels that are read from its lines.
-/

namespace ShellMenu.Batch

/-! ## Labels and jumps -/

/-- Every jump leads to a label that comes later. -/
def Forward : List Statement → Prop
  | [] => True
  | statement :: rest =>
      (∀ target, statement.target? = some target → target ∈ labels rest) ∧ Forward rest

theorem Forward.cons_of_none {statement : Statement} {rest : List Statement}
    (plain : statement.target? = none) (forward : Forward rest) : Forward (statement :: rest) := by
  refine ⟨fun target jumps => ?_, forward⟩
  rw [plain] at jumps
  cases jumps

theorem Forward.append {left right : List Statement} (first : Forward left)
    (second : Forward right) : Forward (left ++ right) := by
  induction left with
  | nil => exact second
  | cons statement left ih =>
      refine ⟨fun target jumps => ?_, ih first.2⟩
      show target ∈ labels (left ++ right)
      rw [labels_append]
      exact List.mem_append_left _ (first.1 target jumps)

theorem Forward.mem_labels {before after : List Statement} {jump : Statement} {target : String}
    (forward : Forward (before ++ jump :: after)) (jumps : jump.target? = some target) :
    target ∈ labels after := by
  induction before with
  | nil => exact forward.1 target jumps
  | cons statement before ih => exact ih forward.2

/-- Neither a label nor a jump. -/
def Statement.IsPlain (statement : Statement) : Prop :=
  statement.label? = none ∧ statement.target? = none

/-- Sections that lie side by side or inside one another: a jump skips a section and leads to the
label at its end. The sites are those of the labels, in their order. -/
inductive Nested (menu : String) : List Site → List Statement → Prop where
  | nil : Nested menu [] []
  | plain {statement : Statement} {sites : List Site} {rest : List Statement}
      (plain : statement.IsPlain) (others : Nested menu sites rest) :
      Nested menu sites (statement :: rest)
  | label (site : Site) {sites : List Site} {rest : List Statement}
      (others : Nested menu sites rest) :
      Nested menu (site :: sites) (.label (site.label menu) :: rest)
  | skip (condition : Condition) (site : Site) {inner sites : List Site}
      {part rest : List Statement} (inside : Nested menu inner part)
      (others : Nested menu sites rest) :
      Nested menu (inner ++ site :: sites)
        (.jumpIf condition (site.label menu) :: part ++ .label (site.label menu) :: rest)

namespace Nested

variable {menu : String} {sites : List Site} {statements : List Statement}

theorem labels_eq (nested : Nested menu sites statements) :
    labels statements = sites.map (Site.label menu) := by
  induction nested with
  | nil => rfl
  | plain plain _ ih => rw [labels_cons_of_none plain.1, ih]
  | label site _ ih => rw [labels_cons_label, ih, List.map_cons]
  | skip condition site _ _ inner outer =>
      rw [List.cons_append, labels_cons_of_none rfl, labels_append, labels_cons_label, inner, outer,
        List.map_append, List.map_cons]

theorem forward (nested : Nested menu sites statements) : Forward statements := by
  induction nested with
  | nil => trivial
  | plain plain _ ih => exact ih.cons_of_none plain.2
  | label site _ ih => exact ih.cons_of_none rfl
  | @skip condition site _ _ part rest _ _ inner outer =>
      refine ⟨fun target jumps => ?_, inner.append (outer.cons_of_none rfl)⟩
      cases jumps
      show site.label menu ∈ labels (part ++ .label (site.label menu) :: rest)
      rw [labels_append, labels_cons_label]
      exact List.mem_append_right _ List.mem_cons_self

theorem append {more : List Site} {rest : List Statement} (first : Nested menu sites statements)
    (second : Nested menu more rest) : Nested menu (sites ++ more) (statements ++ rest) := by
  induction first with
  | nil => exact second
  | plain plain _ ih => exact ih.plain plain
  | label site _ ih => exact ih.label site
  | skip condition site inside _ _ ih => simpa using inside.skip condition site ih

theorem of_isPlain (plain : ∀ statement ∈ statements, statement.IsPlain) :
    Nested menu [] statements := by
  induction statements with
  | nil => exact nil
  | cons statement rest ih =>
      exact (ih fun other later => plain other (List.mem_cons_of_mem statement later)).plain
        (plain statement List.mem_cons_self)

theorem map {α : Type} {make : α → Statement} (plain : ∀ x, (make x).IsPlain) (xs : List α) :
    Nested menu [] (xs.map make) :=
  of_isPlain (List.forall_mem_map.2 fun x _ => plain x)

theorem flatMap {α β : Type} {within : α → List Site} {part : β → List Statement} {xs : List α}
    {ys : List β} (each : List.Forall₂ (fun x y => Nested menu (within x) (part y)) xs ys) :
    Nested menu (xs.flatMap within) (ys.flatMap part) := by
  induction each with
  | nil => exact nil
  | cons first _ others => exact first.append others

end Nested

/-! ## Blocks -/

theorem nested_gates (menu : String) (index : Nat) (access : Option Json) :
    Nested menu (access.toList.map fun _ => .allowed index) (gates menu index access) := by
  cases access with
  | none => exact .nil
  | some level =>
      have asked : Nested menu [] [.call s!"auth_{level.display}" [],
          .line "if errorlevel 1 exit /b 1"] :=
        (Nested.nil.plain ⟨rfl, rfl⟩).plain ⟨rfl, rfl⟩
      rw [gates, ← Site.label_allowed]
      exact asked.skip _ (.allowed index) .nil

theorem isPlain_argTests (arg : Arg) : ∀ statement ∈ argTests arg, statement.IsPlain := by
  unfold argTests
  cases arg.hasBounds <;> cases arg.minimum <;> cases arg.maximum <;>
    simp [Statement.IsPlain, Statement.label?, Statement.target?]

theorem isPlain_argSupply (arg : Arg) : (argSupply arg).IsPlain := by
  unfold argSupply
  cases arg.fallback with
  | some value => exact ⟨rfl, rfl⟩
  | none => exact ⟨rfl, rfl⟩

theorem nested_argChecks (menu : String) (index : Nat) (args : List Arg) :
    Nested menu (args.map fun arg => .given index arg.name) (argChecks menu index args) := by
  have each : Nested menu ((args.zipIdx 2).flatMap fun entry => [.given index entry.1.name])
      ((args.zipIdx 2).flatMap fun entry =>
        argCheck entry.1 entry.2 (hasArg menu index entry.1.name)) := by
    refine Nested.flatMap (List.forall₂_same.2 fun entry _ => ?_)
    have supplied : Nested menu [] [argSupply entry.1] :=
      Nested.nil.plain (isPlain_argSupply entry.1)
    rw [argCheck, ← Site.label_given]
    exact (supplied.skip _ (.given index entry.1.name)
      (Nested.of_isPlain (isPlain_argTests entry.1))).plain ⟨rfl, rfl⟩
  have sites : ((args.zipIdx 2).flatMap fun entry => [Site.given index entry.1.name]) =
      args.map fun arg => .given index arg.name := by
    conv_rhs => rw [← List.zipIdx_map_fst 2 args, List.map_map]
    exact List.map_eq_flatMap.symm
  rw [sites] at each
  unfold argChecks
  split
  · next none =>
      rw [List.isEmpty_iff.1 none]
      exact .nil
  · exact each.plain ⟨rfl, rfl⟩

/-- The help sections that can be skipped: the open one is always shown. -/
def helpSites (plan : MenuPlan) : List Site :=
  plan.help.flatMap fun part => if part.level = 0 then [] else [.shown part.level]

theorem nested_helpStatements (plan : MenuPlan) :
    Nested plan.name (helpSites plan) (helpStatements plan) := by
  refine Nested.flatMap (List.forall₂_same.2 fun part _ => ?_)
  have echoed : Nested plan.name []
      ((echo (escape (Text.trimEndNewlines part.text))).map Statement.line) :=
    Nested.map (fun _ => ⟨rfl, rfl⟩) _
  simp only
  split
  · exact echoed
  · rw [← Site.label_shown]
    exact (echoed.plain ⟨rfl, rfl⟩).skip _ (.shown part.level) .nil

def bodySites (plan : MenuPlan) (planned : PlannedCommand) : List Site :=
  if planned.body = .builtin .help then helpSites plan else []

theorem nested_bodyStatements {plan : MenuPlan} {levels : List Int} {planned : PlannedCommand}
    {body : List Statement} (written : bodyStatements plan levels planned = .ok body) :
    Nested plan.name (bodySites plan planned) body := by
  unfold bodyStatements at written
  by_cases helps : planned.body = .builtin .help
  · rw [helps] at written
    cases written
    rw [bodySites, if_pos helps]
    exact nested_helpStatements plan
  · rw [bodySites, if_neg helps]
    split at written
    · next builtin here =>
        cases builtin with
        | clear =>
            cases written
            exact Nested.nil.plain ⟨rfl, rfl⟩
        | exit =>
            cases written
            exact (Nested.nil.plain ⟨rfl, rfl⟩).plain ⟨rfl, rfl⟩
        | help => exact absurd here helps
        | auth =>
            cases written
            exact ((Nested.map (fun _ => ⟨rfl, rfl⟩) _).append
              ((Nested.nil.plain ⟨rfl, rfl⟩).plain ⟨rfl, rfl⟩)).plain ⟨rfl, rfl⟩
        | catchAll => cases written
    · cases written
      exact Nested.nil.plain ⟨rfl, rfl⟩
    · cases written
      exact Nested.map (fun _ => ⟨rfl, rfl⟩) _
    · cases written
      exact (Nested.map (fun _ => ⟨rfl, rfl⟩) _).append (Nested.nil.plain ⟨rfl, rfl⟩)

/-- A matcher ends in its only jump. -/
theorem exists_matcher_eq (command : Command) (past : String) :
    ∃ front condition, matcher command past = front ++ [.jumpIf condition past] ∧
      ∀ statement ∈ front, statement.IsPlain := by
  unfold matcher
  split
  · exact ⟨[], _, rfl, by simp⟩
  · exact ⟨_, _, rfl, by simp [Statement.IsPlain, Statement.label?, Statement.target?]⟩

/-- An unsupported command asks for nothing. -/
def checkSites (planned : PlannedCommand) (index : Nat) : List Site :=
  if planned.isSupported then
    (planned.command.access.toList.map fun _ => .allowed index)
      ++ planned.command.args.map fun arg => .given index arg.name
  else []

def blockSites (plan : MenuPlan) (entry : PlannedCommand × Nat) : List Site :=
  checkSites entry.1 entry.2 ++ bodySites plan entry.1 ++ [.past entry.2]

theorem nested_body (plan : MenuPlan) (levels : List Int) (index : Nat)
    (planned : PlannedCommand) :
    Ends (fun block => Nested plan.name (checkSites planned index ++ bodySites plan planned)
      block.body) (fun _ => True) (block plan levels index planned) := by
  unfold block
  refine Ends.bind (Ends.any _) fun _ _ => ?_
  cases written : bodyStatements plan levels planned with
  | error error => exact trivial
  | ok body =>
      refine Ends.ok (Nested.append ?_ (nested_bodyStatements written))
      unfold checkSites
      split
      · exact (nested_gates _ _ _).append (nested_argChecks _ _ _)
      · exact .nil

theorem nested_block (plan : MenuPlan) (levels : List Int) (entry : PlannedCommand × Nat) :
    Ends (fun block => Nested plan.name (blockSites plan entry) block.statements) (fun _ => True)
      (block plan levels entry.2 entry.1) := by
  refine ((nested_body plan levels entry.2 entry.1).and (block_parts _ _ _ _)).mono ?_
    fun _ holds => holds
  rintro block ⟨body, _, matching, past⟩
  obtain ⟨front, condition, shape, plain⟩ := exists_matcher_eq entry.1.command block.past
  have ended : Nested plan.name [] [.line "exit /b"] := Nested.nil.plain ⟨rfl, rfl⟩
  have whole := (Nested.of_isPlain plain).append
    ((body.append ended).skip condition (.past entry.2) .nil)
  refine Nested.plain ⟨rfl, rfl⟩ ?_
  rw [matching, shape, past]
  simpa [blockSites, Site.label_past] using whole

/-! ## Routines -/

def processSites (plan : MenuPlan) : List Site :=
  (plan.commands.zipIdx.filter fun entry => !entry.1.command.isCatchAll).flatMap (blockSites plan)

/-- Those of the routine as a whole. -/
def scriptSites (plan : MenuPlan) : List Site :=
  .entry :: processSites plan ++ [.leave]

/-- A routine from its first line to its last: a run that falls into it jumps over it. -/
def framed (name description : String) (body : List Statement) : List Statement :=
  .comment description :: .label s!"func_{name}"
    :: .jumpIf (.variable "func" name false) s!"end_func_{name}"
    :: body ++ [.line "exit /b", .label s!"end_func_{name}"]

def processScript (plan : MenuPlan) (blocks : List Block) : List Statement :=
  framed (processName plan.name) s!"Process a {plan.name} command." (processStatements blocks)

theorem nested_processScript {plan : MenuPlan} {levels : List Int} {blocks : List Block}
    (written : Batch.blocks plan levels = .ok blocks) :
    Nested plan.name (scriptSites plan) (processScript plan blocks) := by
  have each : Ends _ _ (Batch.blocks plan levels) :=
    Ends.mapM_forall₂ fun entry _ => nested_block plan levels entry
  have blocksNested := Nested.flatMap (each.of_eq_ok written)
  have invalid : Nested plan.name [] (invalidCommand ++ [.line "exit /b"]) :=
    Nested.of_isPlain (by
      simp [invalidCommand, error, call, Statement.IsPlain, Statement.label?, Statement.target?])
  have inside := blocksNested.append invalid
  have whole := (inside.skip (.variable "func" (processName plan.name) false) .leave .nil).label
    .entry
  rw [Site.label_entry, Site.label_leave] at whole
  refine Nested.plain ⟨rfl, rfl⟩ ?_
  simpa [framed, scriptSites, processSites, processStatements] using whole

/-- Trimming takes nothing from a code that does not end in white space. -/
theorem source_ofLines (name description : String) {body : List Statement}
    (some : statementLines body ≠ [])
    (solid : Text.EndsSolid (Text.joinLines (statementLines body))) :
    (Routine.ofLines name description (statementLines body)).source =
      Text.terminated (statementLines (framed name description body)) := by
  have kept := solid.trimEnd_eq (show ∀ c ∈ "".toList, Text.isBlank c = true by simp)
  rw [String.append_empty] at kept
  have opening : statementLines [.comment description, .label s!"func_{name}",
      .jumpIf (.variable "func" name false) s!"end_func_{name}"] =
      [s!": {description}", s!":func_{name}",
        s!"if NOT \"%func%\" == \"{name}\" goto end_func_{name}"] := by
    simp only [statementLines, List.flatMap_cons, Statement.lines, List.flatMap_nil,
      List.singleton_append, List.cons.injEq, and_true, true_and]
    constructor
    · apply String.toList_injective
      simp [toString]
    · apply String.toList_injective
      simp [Condition.source, toString]
  have closing : statementLines [.line "exit /b", .label s!"end_func_{name}"] =
      ["exit /b", s!":end_func_{name}"] := by
    simp [statementLines, Statement.lines, toString, ← String.append_assoc]
  have lines : statementLines (framed name description body) =
      statementLines [.comment description, .label s!"func_{name}",
        .jumpIf (.variable "func" name false) s!"end_func_{name}"] ++ statementLines body ++
        statementLines [.line "exit /b", .label s!"end_func_{name}"] := by
    simp [framed, statementLines]
  rw [lines, opening, closing, Text.terminated, ← Text.joinLines_joined (by simp) some (by simp),
    Routine.source, Routine.ofLines, kept]
  rfl

/-- The lines of a process routine are those of its statements. -/
theorem rows_processRoutine {plan : MenuPlan} {levels : List Int} {routine : Routine}
    (done : processRoutine plan levels = .ok routine) :
    ∃ blocks, Batch.blocks plan levels = .ok blocks ∧
      Text.splitAt '\n' routine.source = rows (processScript plan blocks) ++ [""] := by
  obtain ⟨blocks, written, rest⟩ := exists_of_bind_eq_ok done
  cases rest
  have code : statementLines (processStatements blocks) =
      statementLines (blocks.flatMap Block.statements) ++ (": Invalid command."
        :: error "\"%~1\" is not a valid command.") ++ ["exit /b 1"] := by
    simp [processStatements, statementLines, invalidCommand, Statement.lines, List.flatMap_map]
    rfl
  have solid : Text.EndsSolid (Text.joinLines (statementLines (processStatements blocks))) := by
    rw [code, Text.joinLines_append (by simp) (by simp)]
    exact Text.EndsSolid.append _ ⟨'1', by decide, by decide⟩
  have text : (Routine.ofLines (processName plan.name) s!"Process a {plan.name} command."
      (statementLines (processStatements blocks))).source =
      Text.terminated (statementLines (processScript plan blocks)) :=
    source_ofLines _ _ (by simp [code]) solid
  have some : statementLines (processScript plan blocks) ≠ [] := by
    simp [processScript, framed, statementLines, Statement.lines]
  refine ⟨blocks, written, ?_⟩
  rw [text, Text.terminated_eq_joinLines some, Text.splitAt_joinLines (by simp),
    List.flatMap_append, ← Text.splitAt_joinLines some, splitAt_joinLines_statementLines some]
  rfl

/-! ## Sites are told apart -/

/-- The number of the block that a site is about. -/
def Site.index? : Site → Option Nat
  | .past index | .allowed index | .given index _ => some index
  | .entry | .leave | .prompted | .shown _ => none

theorem of_mem_checkSites {planned : PlannedCommand} {index : Nat} {site : Site}
    (present : site ∈ checkSites planned index) :
    site = .allowed index ∨ ∃ arg ∈ planned.command.args, site = .given index arg.name := by
  unfold checkSites at present
  split at present
  · simp only [List.mem_append, List.mem_map] at present
    rcases present with ⟨_, _, same⟩ | ⟨arg, inside, same⟩
    · exact Or.inl same.symm
    · exact Or.inr ⟨arg, inside, same.symm⟩
  · cases present

theorem of_mem_bodySites {plan : MenuPlan} {planned : PlannedCommand} {site : Site}
    (present : site ∈ bodySites plan planned) :
    (∃ level, site = .shown level) ∧ planned.body = .builtin .help := by
  unfold bodySites at present
  split at present
  · next helps =>
      obtain ⟨part, _, here⟩ := List.mem_flatMap.1 present
      split at here
      · cases here
      · exact ⟨⟨part.level, List.mem_singleton.1 here⟩, helps⟩
  · cases present

/-- A site is about its block, unless it is one of the help sections. -/
theorem of_mem_blockSites {plan : MenuPlan} {entry : PlannedCommand × Nat} {site : Site}
    (present : site ∈ blockSites plan entry) :
    site.index? = some entry.2 ∨
      (∃ level, site = .shown level) ∧ entry.1.body = .builtin .help := by
  simp only [blockSites, List.mem_append, List.mem_singleton] at present
  rcases present with (check | body) | rfl
  · rcases of_mem_checkSites check with rfl | ⟨_, _, rfl⟩
    · exact Or.inl rfl
    · exact Or.inl rfl
  · exact Or.inr (of_mem_bodySites body)
  · exact Or.inl rfl

theorem nodup_helpSites {menu : Menu} {levels : List Int} (ascending : levels.Pairwise (· < ·))
    (fragments : Fragments) : (helpSites (MenuPlan.ofMenu menu levels .batch fragments)).Nodup := by
  rw [helpSites, MenuPlan.ofMenu, MenuPlan.helpSections_eq, List.flatMap_cons, if_pos rfl,
    List.nil_append, List.flatMap_map, List.nodup_flatMap]
  constructor
  · intro level _
    split
    · exact List.nodup_nil
    · exact List.nodup_singleton _
  · refine (ascending.filter _).imp fun {left right} below site inLeft inRight => ?_
    simp only at inLeft inRight
    split at inLeft
    · cases inLeft
    · split at inRight
      · cases inRight
      · have same := (List.mem_singleton.1 inLeft).symm.trans (List.mem_singleton.1 inRight)
        cases same
        omega

theorem nodup_blockSites {plan : MenuPlan} (helps : (helpSites plan).Nodup)
    {entry : PlannedCommand × Nat} (args : (entry.1.command.args.map Arg.name).Nodup) :
    (blockSites plan entry).Nodup := by
  have given : (entry.1.command.args.map fun arg => Site.given entry.2 arg.name).Nodup := by
    have named := args.map fun (left right : String)
      (same : Site.given entry.2 left = .given entry.2 right) => (Site.given.inj same).2
    rwa [List.map_map] at named
  have checks : (checkSites entry.1 entry.2).Nodup := by
    unfold checkSites
    split
    · cases entry.1.command.access with
      | none => exact given
      | some level => exact List.nodup_cons.2 ⟨by simp, given⟩
    · exact List.nodup_nil
  have body : (bodySites plan entry.1).Nodup := by
    unfold bodySites
    split
    · exact helps
    · exact List.nodup_nil
  rw [blockSites, List.nodup_append', List.nodup_append']
  refine ⟨⟨checks, body, fun site check inBody => ?_⟩, List.nodup_singleton _,
    fun site inside last => ?_⟩
  · obtain ⟨⟨level, rfl⟩, _⟩ := of_mem_bodySites inBody
    rcases of_mem_checkSites check with same | ⟨_, _, same⟩ <;> cases same
  · cases List.mem_singleton.1 last
    rcases List.mem_append.1 inside with check | inBody
    · rcases of_mem_checkSites check with same | ⟨_, _, same⟩ <;> cases same
    · obtain ⟨⟨level, same⟩, _⟩ := of_mem_bodySites inBody
      cases same

/-! ## Menus -/

/-- Neither the number nor the name of a command comes twice. -/
theorem pairwise_commands {menu : Menu} (apart : (menu.commands.map Command.name).Nodup)
    (levels : List Int) (fragments : Fragments) :
    (MenuPlan.ofMenu menu levels .batch fragments).commands.zipIdx.Pairwise fun left right =>
      left.2 ≠ right.2 ∧ left.1.command.name ≠ right.1.command.name := by
  have numbers : ((MenuPlan.ofMenu menu levels .batch fragments).commands.zipIdx.map
      Prod.snd).Nodup := by
    rw [List.zipIdx_map_snd]
    exact List.nodup_range'
  have names := Table.nodup_ofMenu apart levels
  have commands : (Table.ofMenu menu levels).map Command.name =
      (MenuPlan.ofMenu menu levels .batch fragments).commands.map (·.command.name) := by
    simp [MenuPlan.ofMenu]
  rw [commands, ← List.zipIdx_map_fst 0 (MenuPlan.ofMenu menu levels .batch fragments).commands,
    List.map_map] at names
  exact (List.pairwise_map.1 numbers).and (List.pairwise_map.1 names)

section Written

variable {menu : Menu} (written : ∀ command ∈ menu.commands, command.IsWritten) {levels : List Int}

include written

theorem nodup_args_of_mem_table {command : Command} (present : command ∈ Table.ofMenu menu levels) :
    (command.args.map Arg.name).Nodup := by
  rcases Table.mem_ofMenu present with declared | builtin
  · exact (written command declared).args
  · rcases Table.argNames_of_mem_builtins builtin with names | names <;> simp [names]

/-- Only the built-in command shows the help. -/
theorem name_of_mem_table {command : Command} (present : command ∈ Table.ofMenu menu levels)
    (helps : command.builtin = some .help) : command.name = "help" := by
  rcases Table.mem_ofMenu present with declared | builtin
  · rw [(written command declared).declared] at helps
    cases helps
  · rw [Table.builtins_eq_append, List.mem_append, List.mem_singleton] at builtin
    rcases builtin with called | rfl
    · rcases Table.eq_of_mem_named called with rfl | rfl | rfl | rfl
      · cases helps
      · cases helps
      · rfl
      · cases helps
    · cases helps

theorem nodup_processSites (apart : (menu.commands.map Command.name).Nodup)
    (ascending : levels.Pairwise (· < ·)) (fragments : Fragments) :
    (processSites (MenuPlan.ofMenu menu levels .batch fragments)).Nodup := by
  have listed : ∀ entry ∈ (MenuPlan.ofMenu menu levels .batch fragments).commands.zipIdx.filter
      fun entry => !entry.1.command.isCatchAll, entry.1.command ∈ Table.ofMenu menu levels ∧
        entry.1.body = entry.1.command.resolve .batch fragments :=
    fun entry present =>
      MenuPlan.mem_commands (List.fst_mem_of_mem_zipIdx (List.mem_of_mem_filter present))
  rw [processSites, List.nodup_flatMap]
  constructor
  · intro entry present
    exact nodup_blockSites (nodup_helpSites ascending fragments)
      (nodup_args_of_mem_table written (listed entry present).1)
  · refine ((pairwise_commands apart levels fragments).filter _).imp_of_mem ?_
    rintro left right inLeft inRight ⟨number, name⟩ site first second
    have helps {planned : PlannedCommand} (present : planned.command ∈ Table.ofMenu menu levels ∧
        planned.body = planned.command.resolve .batch fragments)
        (shows : planned.body = .builtin .help) : planned.command.name = "help" :=
      name_of_mem_table written present.1
        (Command.builtin_of_resolve (present.2.symm.trans shows))
    rcases of_mem_blockSites first with here | ⟨⟨level, rfl⟩, shows⟩
    · rcases of_mem_blockSites second with there | ⟨⟨level, rfl⟩, _⟩
      · exact number (Option.some.inj (here.symm.trans there))
      · cases here
    · rcases of_mem_blockSites second with there | ⟨_, also⟩
      · cases there
      · exact name ((helps (listed left inLeft) shows).trans
          (helps (listed right inRight) also).symm)

theorem nodup_scriptSites (apart : (menu.commands.map Command.name).Nodup)
    (ascending : levels.Pairwise (· < ·)) (fragments : Fragments) :
    (scriptSites (MenuPlan.ofMenu menu levels .batch fragments)).Nodup := by
  have inner : ∀ site ∈ processSites (MenuPlan.ofMenu menu levels .batch fragments),
      site ≠ .entry ∧ site ≠ .leave := by
    intro site present
    obtain ⟨entry, _, here⟩ := List.mem_flatMap.1 present
    rcases of_mem_blockSites here with numbered | ⟨⟨level, rfl⟩, _⟩
    · constructor <;> (rintro rfl; cases numbered)
    · exact ⟨nofun, nofun⟩
  have sites := nodup_processSites written apart ascending fragments
  rw [scriptSites, List.cons_append, List.nodup_cons, List.nodup_append']
  refine ⟨fun present => ?_, sites, List.nodup_singleton _, fun site present last => ?_⟩
  · rcases List.mem_append.1 present with inside | last
    · exact (inner .entry inside).1 rfl
    · cases List.mem_singleton.1 last
  · exact (inner site present).2 (List.mem_singleton.1 last)

end Written

/-! ## Lines -/

theorem tidy_processScript {menu : Menu} {levels : List Int} {fragments : Fragments}
    (named : Text.IsUnbroken menu.name)
    (unbroken : ∀ command ∈ Table.ofMenu menu levels, command.IsUnbroken) {blocks : List Block}
    (written : Batch.blocks (MenuPlan.ofMenu menu levels .batch fragments) levels = .ok blocks) :
    Tidy (fun _ => True)
      (processScript (MenuPlan.ofMenu menu levels .batch fragments) blocks) := by
  have process : Text.IsUnbroken (processName menu.name) :=
    Text.IsUnbroken.append (by decide) named
  have entry : Text.IsUnbroken s!"func_{processName menu.name}" :=
    Text.IsUnbroken.append (by decide) process
  have leave : Text.IsUnbroken s!"end_func_{processName menu.name}" :=
    Text.IsUnbroken.append (by decide) process
  refine .cons (fun _ _ => trivial) (.cons (isTidy_label entry (c := 'f') ?_ rfl)
    (.cons ⟨⟨by decide, process⟩, leave⟩ (.append ?_ (.cons isTidy_exit
      (.cons (isTidy_label leave (c := 'e') ?_ rfl) .nil)))))
  · simp [toString]
  · exact tidy_processStatements named unbroken written
  · simp [toString]

/-- The labels that are read from the generated lines. -/
def generatedLabels (statements : List Statement) : List String :=
  (generatedRows statements).filterMap labelRow?

def promptLabels (plan : MenuPlan) : List String :=
  (Text.splitAt '\n' (promptRoutine plan).code).filterMap labelRow?

theorem promptLabels_eq {plan : MenuPlan} (named : Text.IsUnbroken plan.name)
    (lead : Text.IsUnbroken plan.menu.lead.display) :
    promptLabels plan = [endSwitch plan.name] := by
  have named (stem : String) (fixed : Text.IsUnbroken stem) : Text.IsUnbroken (stem ++ plan.name) :=
    fixed.append named
  have front : ∀ line ∈ prompt plan.menu.lead.display "input"
      ++ ["if not defined input goto " ++ endSwitch plan.name]
      ++ call (processName plan.name) ["%input%"],
      Text.IsUnbroken line ∧ labelRow? line = none := by
    simp only [List.forall_mem_append, List.forall_mem_singleton]
    refine ⟨⟨prompt_tidy (by decide) lead, ?_, ?_⟩, call_tidy (named _ (by decide)) (by decide)⟩
    · exact Text.IsUnbroken.append (by decide) (named _ (by decide))
    · simp [labelRow?, isIndent]
  have back : ∀ line ∈
      "if \"%exit%\" == \"0\" (" :: indent (call (promptName plan.name) []) ++ [")"],
      Text.IsUnbroken line ∧ labelRow? line = none := by
    rw [List.cons_append, List.forall_mem_cons, List.forall_mem_append, List.forall_mem_singleton,
      indent, List.forall_mem_map]
    refine ⟨by decide +kernel, fun line listed => ?_, by decide +kernel⟩
    obtain ⟨whole, plain⟩ := call_tidy (named _ (by decide)) (List.forall_mem_nil _) line listed
    exact ⟨Text.IsUnbroken.append (by decide) whole, (labelRow?_indent line).trans plain⟩
  obtain ⟨label, read⟩ : (Statement.label (endSwitch plan.name)).IsTidy fun _ => True :=
    isTidy_label (named _ (by decide)) (c := 'e') (by simp [endSwitch, toString]) rfl
  have none {lines : List String}
      (each : ∀ line ∈ lines, Text.IsUnbroken line ∧ labelRow? line = none) :
      lines.filterMap labelRow? = [] :=
    List.filterMap_eq_nil_iff.2 fun line listed => (each line listed).2
  have code : (promptRoutine plan).code = Text.joinLines (prompt plan.menu.lead.display "input"
      ++ ["if not defined input goto " ++ endSwitch plan.name]
      ++ call (processName plan.name) ["%input%"] ++ (":" ++ endSwitch plan.name)
      :: ("if \"%exit%\" == \"0\" (" :: indent (call (promptName plan.name) []) ++ [")"])) := by
    simp [promptRoutine, Routine.ofLines, toString]
  rw [promptLabels, code, Text.splitAt_joinLines_of_not_mem (by simp), List.filterMap_append,
    none front, List.filterMap_cons_some read, none back]
  · rfl
  · rw [List.forall_mem_append, List.forall_mem_cons]
    exact ⟨fun line listed => (front line listed).1, Text.IsUnbroken.append (by decide) label,
      fun line listed => (back line listed).1⟩

/-- The generated labels are told apart. A jump ends its line, and leads to a label of the lines
after it. -/
structure Resolved (statements : List Statement) : Prop where
  distinct : (generatedLabels statements).Nodup
  jumps : ∀ before jump after target, statements = before ++ jump :: after →
    jump.target? = some target →
      (∃ condition, jump.rows = ["if " ++ condition ++ " goto " ++ target]) ∧
      target ∈ generatedLabels after ∧ (generatedLabels statements).count target = 1

theorem Nested.resolved {menu : String} {sites : List Site} {statements : List Statement}
    (nested : Nested menu sites statements) (apart : sites.Nodup)
    (tidy : Tidy (fun _ => True) statements) : Resolved statements := by
  have distinct : (labels statements).Nodup := by
    rw [nested.labels_eq]
    exact apart.map (Site.label_injective menu)
  have read : generatedLabels statements = labels statements := tidy.filterMap_generatedRows
  refine ⟨read ▸ distinct, ?_⟩
  rintro before jump after target rfl leads
  have written := tidy jump (by simp)
  have behind : Tidy (fun _ => True) after :=
    fun statement later => tidy statement (by simp [later])
  have later := nested.forward.mem_labels leads
  have inside : (labels after).Sublist (labels (before ++ jump :: after)) :=
    ((List.sublist_cons_self jump after).trans (List.sublist_append_right _ _)).filterMap _
  refine ⟨?_, ?_, ?_⟩
  · cases jump <;> cases leads
    next condition =>
      obtain ⟨asked, named⟩ := written
      refine ⟨condition.source, rows_of_lines rfl ?_⟩
      simp [Text.IsUnbroken, asked.source, named]
  · rw [generatedLabels, behind.filterMap_generatedRows]
    exact later
  · rw [read]
    exact List.count_eq_one_of_mem distinct (inside.subset later)

section Unbroken

variable {menu : Menu} {levels : List Int} {fragments : Fragments} (unbroken : menu.IsUnbroken)
  (reachable : ∀ command ∈ menu.commands, command.Reachable levels) {blocks : List Block}
  (written : Batch.blocks (MenuPlan.ofMenu menu levels .batch fragments) levels = .ok blocks)

include unbroken reachable written

theorem generatedLabels_eq :
    generatedLabels (processScript (MenuPlan.ofMenu menu levels .batch fragments) blocks) =
      (scriptSites (MenuPlan.ofMenu menu levels .batch fragments)).map (Site.label menu.name) := by
  have tidy := tidy_processScript unbroken.name (unbroken.table reachable) written
  rw [generatedLabels, tidy.filterMap_generatedRows, (nested_processScript written).labels_eq]
  rfl

/-- Whatever is read as a label of a menu marks one of its sites. -/
theorem exists_site {label : String}
    (present : label ∈ promptLabels (MenuPlan.ofMenu menu levels .batch fragments)
      ++ generatedLabels (processScript (MenuPlan.ofMenu menu levels .batch fragments) blocks)) :
    ∃ site : Site, site.label menu.name = label := by
  have prompted : promptLabels (MenuPlan.ofMenu menu levels .batch fragments) =
      [endSwitch menu.name] := promptLabels_eq unbroken.name unbroken.lead
  rw [prompted, generatedLabels_eq unbroken reachable written, List.mem_append,
    List.mem_singleton] at present
  rcases present with rfl | inside
  · exact ⟨.prompted, Site.label_prompted menu.name⟩
  · obtain ⟨site, _, same⟩ := List.mem_map.1 inside
    exact ⟨site, same⟩

end Unbroken

/-- The process routine of each menu is resolved. No label of a menu, the end of its prompt
included, is one of a menu of another name, unless it is about an argument. -/
theorem process_jumps_resolve {payload : Json} {source : String} {spec : Spec}
    (read : Spec.ofJson payload source = .ok spec)
    (whole : ∀ menu ∈ spec.menus, menu.IsUnbroken) (fragments : Fragments) :
    (∀ plan ∈ spec.plans .batch fragments, ∀ routine,
      processRoutine plan spec.levels = .ok routine →
        ∃ blocks, Batch.blocks plan spec.levels = .ok blocks ∧
          Text.splitAt '\n' routine.source = rows (processScript plan blocks) ++ [""] ∧
          Resolved (processScript plan blocks)) ∧
    ∀ plan ∈ spec.plans .batch fragments, ∀ other ∈ spec.plans .batch fragments,
      plan.name ≠ other.name → ∀ blocks others, Batch.blocks plan spec.levels = .ok blocks →
        Batch.blocks other spec.levels = .ok others →
          ∀ label ∈ promptLabels plan ++ generatedLabels (processScript plan blocks),
            label ∈ promptLabels other ++ generatedLabels (processScript other others) →
              Text.startsWith label "has_arg_" = true := by
  have apart := (Spec.ofJson_distinct payload source).of_eq_ok read
  have written := (Spec.ofJson_isWritten payload source).of_eq_ok read
  have reachable := Spec.reachable_of_read read
  constructor
  · intro plan present routine done
    obtain ⟨menu, declared, rfl⟩ := List.mem_map.1 present
    obtain ⟨blocks, made, lines⟩ := rows_processRoutine done
    have distinct := nodup_scriptSites (written menu declared) (apart.commands menu declared)
      spec.pairwise_levels fragments
    have tidy := tidy_processScript (whole menu declared).name
      ((whole menu declared).table (reachable menu declared)) made
    exact ⟨blocks, made, lines, (nested_processScript made).resolved distinct tidy⟩
  · intro plan present other listed differ blocks others made madeOther label here there
    obtain ⟨menu, declared, rfl⟩ := List.mem_map.1 present
    obtain ⟨another, alsoDeclared, rfl⟩ := List.mem_map.1 listed
    obtain ⟨site, rfl⟩ := exists_site (whole menu declared) (reachable menu declared) made here
    obtain ⟨met, same⟩ :=
      exists_site (whole another alsoDeclared) (reachable another alsoDeclared) madeOther there
    by_contra free
    have stem : site.stem ≠ "has_arg_" := fun about =>
      free (about ▸ Site.startsWith_label menu.name site)
    exact differ (Site.eq_of_label_eq same.symm stem).1

/-! ## Names that run into one another -/

def crossedCommand (arg : String) : Json :=
  .obj [("description", .str "Go."), ("access", .int 1), ("batchCommand", .str "echo"),
    ("args", .obj [(arg, .obj []), ("x_1", .obj [])])]

def crossedDocument : Json :=
  .obj [("title", .str "Demo"), ("uri", .str "demo.dev"), ("mainMenu", .str "m"),
    ("menus", .obj [
      ("m", .obj [("commands", .obj [("go", crossedCommand "_0_x")])]),
      ("m_0_", .obj [("commands", .obj [("go", crossedCommand "x")])])]),
    demoAuth ["1"]]

def crossedMenu (name arg : String) : Menu where
  name := name
  commands := [{
    name := "go"
    description := "Go."
    access := some (.int 1)
    args := [{ name := arg }, { name := "x_1" }]
    batchBody := some (.single "echo") }]

def crossedSpec : Spec :=
  { demoSpec [] [1] with
    mainMenu := "m"
    menus := [crossedMenu "m" "_0_x", crossedMenu "m_0_" "x"] }

theorem crossedMenu_isUnbroken :
    ∀ menu ∈ [crossedMenu "m" "_0_x", crossedMenu "m_0_" "x"], menu.IsUnbroken := by
  have bare (name : String) (whole : Text.IsUnbroken name)
      (asked : Text.IsUnbroken ({ name := name } : Arg).promptLabel) :
      ({ name := name } : Arg).IsUnbroken :=
    ⟨whole, fun _ => asked, nofun, nofun⟩
  have menu (name arg : String) (named : Text.IsUnbroken name)
      (given : ({ name := arg } : Arg).IsUnbroken) : (crossedMenu name arg).IsUnbroken := by
    refine ⟨named, (by decide : Text.IsUnbroken "> "), ?_, ?_⟩
    · exact List.forall_mem_singleton.2 (by decide : ∀ name ∈ ["go"], Text.IsUnbroken name)
    · refine List.forall_mem_singleton.2 (List.forall_mem_cons.2 ⟨given, ?_⟩)
      exact List.forall_mem_singleton.2 (bare "x_1" (by decide) (by decide +kernel))
  rw [List.forall_mem_cons, List.forall_mem_singleton]
  exact ⟨menu _ _ (by decide) (bare _ (by decide) (by decide +kernel)),
    menu _ _ (by decide) (bare _ (by decide) (by decide +kernel))⟩

/-- Each of the two menus is resolved, and all that they share is a label about an argument. -/
theorem crossed_menus_resolve :
    Schema.description.violations crossedDocument = [] ∧
    Spec.ofJson crossedDocument "cli.json" = .ok crossedSpec ∧
    ∃ first ∈ crossedSpec.plans .batch ⟨"bat", []⟩, ∃ second ∈ crossedSpec.plans .batch ⟨"bat", []⟩,
      first.name ≠ second.name ∧
      ∃ blocks others, Batch.blocks first crossedSpec.levels = .ok blocks ∧
        Batch.blocks second crossedSpec.levels = .ok others ∧
        Resolved (processScript first blocks) ∧ Resolved (processScript second others) ∧
        (generatedLabels (processScript first blocks)).filter
          (· ∈ generatedLabels (processScript second others)) = ["has_arg_m_0__0_x"] := by
  have read : Spec.ofJson crossedDocument "cli.json" = .ok crossedSpec := rfl
  obtain ⟨resolved, _⟩ := process_jumps_resolve read crossedMenu_isUnbroken ⟨"bat", []⟩
  have written : ∀ plan ∈ crossedSpec.plans .batch ⟨"bat", []⟩,
      (processRoutine plan crossedSpec.levels).isOk = true := by
    decide +kernel
  have made : ∀ plan ∈ crossedSpec.plans .batch ⟨"bat", []⟩, ∃ blocks,
      Batch.blocks plan crossedSpec.levels = .ok blocks ∧ Resolved (processScript plan blocks) := by
    intro plan present
    obtain ⟨routine, done⟩ := exists_of_isOk (written plan present)
    obtain ⟨blocks, made, _, holds⟩ := resolved plan present routine done
    exact ⟨blocks, made, holds⟩
  have one : MenuPlan.ofMenu (crossedMenu "m" "_0_x") crossedSpec.levels .batch ⟨"bat", []⟩ ∈
    crossedSpec.plans .batch ⟨"bat", []⟩ := List.mem_cons_self
  have two : MenuPlan.ofMenu (crossedMenu "m_0_" "x") crossedSpec.levels .batch ⟨"bat", []⟩ ∈
    crossedSpec.plans .batch ⟨"bat", []⟩ := List.mem_cons_of_mem _ List.mem_cons_self
  obtain ⟨blocks, madeFirst, first⟩ := made _ one
  obtain ⟨others, madeSecond, second⟩ := made _ two
  refine ⟨by decide +kernel, read, _, one, _, two, by decide, blocks, others, madeFirst, madeSecond,
    first, second, ?_⟩
  have reachable := Spec.reachable_of_read read
  obtain ⟨unbroken, unbrokenOther⟩ := List.forall_mem_cons.1 crossedMenu_isUnbroken
  rw [generatedLabels_eq unbroken (reachable _ List.mem_cons_self) madeFirst,
    generatedLabels_eq (List.forall_mem_singleton.1 unbrokenOther)
      (reachable _ (List.mem_cons_of_mem _ List.mem_cons_self)) madeSecond]
  decide +kernel

/-! ## Texts that bring a line feed -/

/-- A prompt of three lines, the second of which looks like a label. -/
def promptingDocument : Json :=
  demoDocument [("go", .obj [("description", .str "Go."), ("batchCommand", .str "echo"),
    ("args", .obj [("x", .obj [("promptMessage", .str "Name\n:has_arg_main_0_x\nmore")])])])] []

def promptingCommand : Command where
  name := "go"
  description := "Go."
  args := [{ name := "x", promptMessage := some (.str "Name\n:has_arg_main_0_x\nmore") }]
  batchBody := some (.single "echo")

def promptingSpec : Spec :=
  demoSpec [promptingCommand] []

def promptingPlan : MenuPlan :=
  MenuPlan.ofMenu { name := "main", commands := [promptingCommand] } [] .batch ⟨"bat", []⟩

/-- The names have no line feed in them, and the target of a jump is defined more than once. -/
theorem promptingDocument_label_repeated :
    Schema.description.violations promptingDocument = [] ∧
    Spec.ofJson promptingDocument "cli.json" = .ok promptingSpec ∧
    (∀ menu ∈ promptingSpec.menus, '\n' ∉ menu.name.toList ∧ ∀ command ∈ menu.commands,
      (∀ name ∈ command.names, '\n' ∉ name.toList) ∧
        ∀ arg ∈ command.args, '\n' ∉ arg.name.toList) ∧
    ∃ plan ∈ promptingSpec.plans .batch ⟨"bat", []⟩, ∃ routine,
      processRoutine plan promptingSpec.levels = .ok routine ∧
      "if NOT \"%x%\" == \"\" goto has_arg_main_0_x" ∈ Text.splitAt '\n' routine.source ∧
      2 ≤ ((Text.splitAt '\n' routine.source).filterMap labelRow?).count "has_arg_main_0_x" := by
  refine ⟨by decide +kernel, rfl, by decide, promptingPlan, List.mem_singleton.2 rfl, ?_⟩
  obtain ⟨routine, done⟩ : ∃ routine,
      processRoutine promptingPlan promptingSpec.levels = .ok routine :=
    exists_of_isOk (by decide +kernel)
  have doubled : (block promptingPlan promptingSpec.levels 0
      ⟨promptingCommand, .inline (.single "echo")⟩).toOption.any (fun block =>
        "if NOT \"%x%\" == \"\" goto has_arg_main_0_x" ∈ rows block.statements ∧
          2 ≤ ((rows block.statements).filterMap labelRow?).count "has_arg_main_0_x") = true := by
    decide +kernel
  obtain ⟨blocks, made, lines⟩ := rows_processRoutine done
  obtain ⟨first, others, here, _, rfl⟩ :=
    List.forall₂_cons_left_iff.1 (forall₂_of_mapM_eq_ok made)
  have same : block promptingPlan promptingSpec.levels 0
    ⟨promptingCommand, .inline (.single "echo")⟩ = .ok first := here
  rw [same] at doubled
  obtain ⟨jump, twice⟩ := of_decide_eq_true doubled
  have inside : (rows first.statements).Sublist (Text.splitAt '\n' routine.source) := by
    simp only [lines, processScript, framed, processStatements, List.flatMap_cons,
      List.cons_append, rows_cons, rows_append, List.append_assoc]
    iterate 3 apply List.sublist_append_of_sublist_right
    exact List.sublist_append_left _ _
  exact ⟨routine, done, inside.subset jump,
    Nat.le_trans twice ((inside.filterMap labelRow?).count_le _)⟩

end ShellMenu.Batch
