import Mathlib.Data.List.Nodup
import ShellMenu.Plan.Basic
import ShellMenu.Proofs.Plan.Unbroken
import ShellMenu.Proofs.Spec.Demo

/-
  The help sections of a menu, one for each access level that has something to show. Together
  they list every command that can be listed once, and what they list can be run.
-/

namespace ShellMenu

/-! ## Commands that help can list -/

/-- Has a name, is not hidden, and runs no script that is not at hand. -/
def Command.isListable (fragments : Fragments) (command : Command) : Bool :=
  !command.isCatchAll && !command.isHidden
    && command.script.all fun script => script.string?.any fragments.has

/-- The level a reader needs to see the command. -/
def Command.tier (command : Command) : Int :=
  (command.access.bind Json.integer?).getD 0

/-- What the sections rely on in a command: a declared level, and a script that has a name and is
not in the way of a built-in body. -/
structure Command.Graded (levels : List Int) (command : Command) : Prop where
  reachable : command.Reachable levels
  script : ∀ script, command.script = some script →
    command.builtin = none ∧ ∃ name, script = .str name

theorem Fragments.mem_fileNames_iff {fragments : Fragments} {name : String} :
    fileName fragments.extension name ∈ fragments.fileNames ↔ fragments.has name = true := by
  simp only [fileNames, has, List.mem_map, List.lookup_isSome_iff, beq_iff_eq]
  constructor
  · rintro ⟨entry, present, same⟩
    have stems : entry.1 = name := by
      simpa [fileName, toString] using same
    exact ⟨entry, present, stems.symm⟩
  · rintro ⟨entry, present, same⟩
    exact ⟨entry, present, by rw [same]⟩

theorem Help.hasScript_eq {fragments : Fragments} {levels : List Int} {command : Command}
    (graded : command.Graded levels) :
    hasScript fragments.fileNames fragments.extension command.script =
      command.script.all fun script => script.string?.any fragments.has := by
  cases named : command.script with
  | none => rfl
  | some script =>
      obtain ⟨_, name, rfl⟩ := graded.script script named
      have known : fragments.fileNames.contains (Fragments.fileName fragments.extension name) =
          fragments.has name := by
        rw [Bool.eq_iff_iff, List.contains_iff_mem, Fragments.mem_fileNames_iff]
      exact known

theorem Command.Graded.access_cases {levels : List Int} {command : Command}
    (graded : command.Graded levels) :
    (command.access = none ∧ command.tier = 0) ∨
      (command.access.bind Json.integer? = some command.tier ∧ command.tier ∈ levels) := by
  cases asked : command.access with
  | none => exact Or.inl ⟨rfl, by simp [tier, asked]⟩
  | some access =>
      have declared := graded.reachable access asked
      unfold declaresLevel at declared
      cases whole : access.integer? with
      | none => simp [whole] at declared
      | some level =>
          have same : command.tier = level := by simp [tier, asked, whole]
          refine Or.inr ⟨by simp [same, whole], ?_⟩
          simpa [whole, same] using declared

theorem Help.atLevel_eq {levels : List Int} {command : Command} (graded : command.Graded levels)
    (positive : ∀ level ∈ levels, 1 ≤ level) {level : Int} (low : 0 ≤ level) :
    atLevel level command.access = decide (command.tier = level) := by
  by_cases free : level = 0
  · subst free
    rcases graded.access_cases with ⟨unasked, zero⟩ | ⟨asked, inside⟩
    · simp [atLevel, unasked, zero]
    · have above := positive _ inside
      obtain ⟨access, given, _⟩ := Option.bind_eq_some_iff.1 asked
      have apart : command.tier ≠ 0 := by omega
      simp [atLevel, given, apart]
  · have above : 0 < level := by omega
    rw [atLevel, if_neg free, if_pos above]
    rcases graded.access_cases with ⟨unasked, zero⟩ | ⟨asked, _⟩
    · simp [unasked, zero, Ne.symm free]
    · simp [asked]

theorem MenuPlan.listed_eq_filter {table : List Command} {levels : List Int}
    (graded : ∀ command ∈ table, command.Graded levels) (positive : ∀ level ∈ levels, 1 ≤ level)
    (fragments : Fragments) {level : Int} (low : 0 ≤ level) :
    listed table fragments level =
      table.filter fun command =>
        command.isListable fragments && decide (command.tier = level) := by
  refine List.filter_congr fun command present => ?_
  have fits := graded command present
  simp only [Help.lists, Command.isListable, Help.hasScript_eq fits,
    Help.atLevel_eq fits positive low]

/-! ## Rows -/

namespace Help

/-- A row has the names of a command and its arguments, and behind a gap its description. What may
be left out stands in square brackets. -/
def Shows (row : String) (command : Command) : Prop :=
  ∃ blanks, 4 ≤ blanks ∧ row = "|".intercalate command.names
    ++ String.join (command.args.map fun arg =>
        if arg.fallback.isSome then " [" ++ arg.name ++ "]" else " <" ++ arg.name ++ ">")
    ++ Text.repeated blanks ' '
    ++ ("$\x7bGREY\x7d" ++ command.description ++ "$\x7bRESET\x7d")

/-- No row shows another command as well. -/
def ToldApart (table : List Command) (command : Command) : Prop :=
  ∀ other ∈ table, ∀ row, Shows row other → Shows row command → other = command

/-- All that a row shows of a command is on one line. -/
structure OneLine (command : Command) : Prop where
  names : ∀ name ∈ command.names, '\n' ∉ name.toList
  args : ∀ arg ∈ command.args, '\n' ∉ arg.name.toList
  description : '\n' ∉ command.description.toList

theorem append_intercalate (separator : String) (words : List String) (nonempty : words ≠ []) :
    separator ++ separator.intercalate words = String.join (words.map (separator ++ ·)) := by
  induction words with
  | nil => exact absurd rfl nonempty
  | cons word rest ih =>
      cases rest with
      | nil => simp
      | cons next others =>
          rw [String.intercalate_cons_cons, List.map_cons, String.join_cons,
            ← ih (List.cons_ne_nil next others)]
          simp only [String.append_assoc]

theorem term_eq (command : Command) :
    term command = "|".intercalate command.names
      ++ String.join (command.args.map fun arg =>
        if arg.fallback.isSome then " [" ++ arg.name ++ "]" else " <" ++ arg.name ++ ">") := by
  have marks : (command.args.map Arg.placeholder).map (" " ++ ·) = command.args.map fun arg =>
      if arg.fallback.isSome then " [" ++ arg.name ++ "]" else " <" ++ arg.name ++ ">" := by
    rw [List.map_map]
    refine List.map_congr_left fun arg _ => ?_
    unfold Arg.placeholder
    simp only [Function.comp_apply]
    split <;> simp [toString, ← String.append_assoc]
  unfold term
  cases empty : command.args with
  | nil => simp
  | cons first others =>
      rw [if_neg (by simp), ← empty, ← marks, ← append_intercalate _ _ (by simp [empty])]
      simp only [String.append_assoc]

theorem shows_line {width : Nat} {command : Command}
    (fits : (term command).length + columnGap ≤ width) : Shows (line width command) command := by
  refine ⟨width - (term command).length, ?_, ?_⟩
  · simp only [columnGap] at fits
    omega
  · rw [← term_eq]
    simp only [line, Text.padRight, Text.repeated, Placeholder.braced, String.append_assoc]
    rfl

theorem Shows.newline_not_mem {row : String} {command : Command} (shows : Shows row command)
    (whole : OneLine command) : '\n' ∉ row.toList := by
  obtain ⟨blanks, _, rfl⟩ := shows
  have names : '\n' ∉ ("|".intercalate command.names).toList :=
    Text.not_mem_intercalate (by decide) whole.names
  have args : '\n' ∉ (String.join (command.args.map fun arg =>
      if arg.fallback.isSome then " [" ++ arg.name ++ "]"
      else " <" ++ arg.name ++ ">")).toList := by
    rw [String.toList_join, List.mem_flatMap]
    rintro ⟨mark, listed, inside⟩
    obtain ⟨arg, present, rfl⟩ := List.mem_map.1 listed
    have free := whole.args arg present
    split at inside <;> simp [free] at inside
  simp only [String.toList_append, List.mem_append, names, args, false_or, Text.repeated,
    String.toList_ofList, List.mem_replicate]
  simp [whole.description]

/-- Behind the first name comes a bar or a blank. -/
theorem Shows.exists_behind {row : String} {command : Command} (shows : Shows row command) :
    ∃ rest, row = command.name ++ ("|" ++ rest) ∨ row = command.name ++ (" " ++ rest) := by
  obtain ⟨blanks, wide, rfl⟩ := shows
  generalize "$\x7bGREY\x7d" ++ command.description ++ "$\x7bRESET\x7d" = ending
  cases listed : command.aliases with
  | cons first others =>
      have names : "|".intercalate command.names =
          command.name ++ "|" ++ "|".intercalate ((first :: others).map Json.display) := by
        rw [Command.names, listed]
        exact String.intercalate_cons_cons
      simp only [names, String.append_assoc]
      exact ⟨_, Or.inl rfl⟩
  | nil =>
      have names : "|".intercalate command.names = command.name := by
        rw [Command.names, listed]
        exact String.intercalate_singleton
      rw [names]
      cases command.args with
      | nil =>
          obtain ⟨fewer, rfl⟩ : ∃ fewer, blanks = fewer + 1 := ⟨blanks - 1, by omega⟩
          have one : Text.repeated (fewer + 1) ' ' = " " ++ Text.repeated fewer ' ' := by
            simp [Text.repeated, List.replicate_succ, String.ofList_cons]
          simp only [one, List.map_nil, String.join_nil, String.append_empty, String.append_assoc]
          exact ⟨_, Or.inr rfl⟩
      | cons arg others =>
          have square : " [" = " " ++ "[" := rfl
          have pointed : " <" = " " ++ "<" := rfl
          simp only [List.map_cons, String.join_cons]
          split
          · simp only [square, String.append_assoc]
            exact ⟨_, Or.inr rfl⟩
          · simp only [pointed, String.append_assoc]
            exact ⟨_, Or.inr rfl⟩

/-- The first name reaches up to the first bar or blank. -/
theorem Shows.takeWhile_eq {row : String} {command : Command} (shows : Shows row command)
    (unbarred : '|' ∉ command.name.toList) (unspaced : ' ' ∉ command.name.toList) :
    row.toList.takeWhile (fun c => c != '|' && c != ' ') = command.name.toList := by
  have stays : ∀ c ∈ command.name.toList, (c != '|' && c != ' ') = true := by
    intro c present
    simp only [Bool.and_eq_true, bne_iff_ne]
    exact ⟨fun same => unbarred (same ▸ present), fun same => unspaced (same ▸ present)⟩
  obtain ⟨rest, rfl | rfl⟩ := shows.exists_behind
  all_goals
    rw [String.toList_append, List.takeWhile_append_of_pos stays]
    simp

/-- Where no name has a bar or a blank in it, a row is known by its first name. -/
theorem toldApart_of_names {table : List Command} (distinct : (table.map Command.name).Nodup)
    (solid : ∀ command ∈ table, '|' ∉ command.name.toList ∧ ' ' ∉ command.name.toList)
    {command : Command} (present : command ∈ table) : ToldApart table command := by
  intro other inside row shows same
  have first := shows.takeWhile_eq (solid other inside).1 (solid other inside).2
  have second := same.takeWhile_eq (solid command present).1 (solid command present).2
  exact List.inj_on_of_nodup_map distinct inside present
    (String.toList_injective (first.symm.trans second))

theorem newline_not_mem_rows {commands : List Command} {rows : List String}
    (shown : List.Forall₂ Shows rows commands) (whole : ∀ command ∈ commands, OneLine command) :
    ∀ row ∈ rows, '\n' ∉ row.toList := by
  induction shown with
  | nil => exact List.forall_mem_nil _
  | cons first _ ih =>
      obtain ⟨here, later⟩ := List.forall_mem_cons.1 whole
      exact List.forall_mem_cons.2 ⟨first.newline_not_mem here, ih later⟩

/-- A command that is told apart is shown exactly where it is listed. -/
theorem exists_row_iff {table commands : List Command} {rows : List String}
    (shown : List.Forall₂ Shows rows commands) (known : ∀ command ∈ commands, command ∈ table)
    {command : Command} (apart : ToldApart table command) :
    (∃ row ∈ rows, Shows row command) ↔ command ∈ commands := by
  induction shown with
  | nil => simp
  | cons first _ ih =>
      obtain ⟨here, later⟩ := List.forall_mem_cons.1 known
      rw [List.exists_mem_cons_iff, List.mem_cons, ih later]
      refine or_congr_left ⟨fun same => (apart _ here _ first same).symm, ?_⟩
      rintro rfl
      exact first

theorem length_le_width {commands : List Command} {command : Command}
    (present : command ∈ commands) :
    (term command).length ≤ (commands.map fun command => (term command).length).foldl max 0 := by
  have grows : ∀ (lengths : List Nat) (start : Nat),
      start ≤ lengths.foldl max start ∧ ∀ length ∈ lengths, length ≤ lengths.foldl max start := by
    intro lengths
    induction lengths with
    | nil => simp
    | cons first rest ih =>
        intro start
        obtain ⟨above, each⟩ := ih (max start first)
        exact ⟨Nat.le_trans (Nat.le_max_left _ _) above,
          List.forall_mem_cons.2 ⟨Nat.le_trans (Nat.le_max_right _ _) above, each⟩⟩
  exact (grows _ 0).2 _ (List.mem_map_of_mem present)

/-- Below the heading and an empty line stands a row for each of the commands. -/
theorem exists_rows_render (heading : String) (commands : List Command) :
    ∃ rows, render heading commands = Text.terminated (heading :: "" :: rows) ∧
      List.Forall₂ Shows rows commands := by
  refine ⟨commands.map (line _), rfl, List.forall₂_map_left_iff.2 (List.forall₂_same.2 ?_)⟩
  intro command present
  exact shows_line (Nat.add_le_add_right (length_le_width present) columnGap)

end Help

/-! ## Sections -/

/-- The lines below the heading and the empty line, as they are read from the text. -/
def HelpSection.rows (part : HelpSection) : List String :=
  ((Text.splitAt '\n' part.text).drop 2).dropLast

theorem HelpSection.rows_eq {part : HelpSection} {heading : String} {rows : List String}
    (text : part.text = Text.terminated (heading :: "" :: rows)) (headed : '\n' ∉ heading.toList)
    (whole : ∀ row ∈ rows, '\n' ∉ row.toList) : part.rows = rows := by
  have lines : part.text = Text.joinLines ((heading :: "" :: rows) ++ [""]) := by
    rw [text, Text.terminated_eq_joinLines (by simp)]
  have free : ∀ line ∈ (heading :: "" :: rows) ++ [""], '\n' ∉ line.toList := by
    simp only [List.cons_append, List.forall_mem_cons, List.forall_mem_append]
    exact ⟨headed, by decide, whole, by decide, List.forall_mem_nil _⟩
  rw [HelpSection.rows, lines, Text.splitAt_joinLines_of_not_mem (by simp) free]
  simp

/-- Where the levels go up, a section is known by its level. -/
theorem HelpSection.eq_of_level_eq {sections : List HelpSection}
    (ascending : (sections.map level).Pairwise (· < ·)) {left right : HelpSection}
    (leftInside : left ∈ sections) (rightInside : right ∈ sections)
    (same : left.level = right.level) : left = right := by
  have apart : (sections.map level).Nodup := ascending.imp fun below => by omega
  exact List.inj_on_of_nodup_map apart leftInside rightInside same

def HelpSection.heading (menu : String) (part : HelpSection) : String :=
  if part.level = 0 then s!"Showing commands for the {menu} menu."
  else s!"Auth level {part.level} commands."

theorem HelpSection.newline_not_mem_heading {menu : String} (part : HelpSection)
    (named : '\n' ∉ menu.toList) : '\n' ∉ (part.heading menu).toList := by
  unfold HelpSection.heading
  split
  · exact (Text.IsUnbroken.append (by decide) named).append (by decide)
  · exact (Text.IsUnbroken.append (by decide) (Text.isUnbroken_toString_int part.level)).append
      (by decide)

namespace MenuPlan

variable {menu : String} {table : List Command} {fragments : Fragments} {levels : List Int}

/-- One section that is always there, and one for each level that lists something. -/
theorem helpSections_eq :
    helpSections menu table fragments levels =
      ⟨0, Help.render s!"Showing commands for the {menu} menu." (listed table fragments 0)⟩
        :: (levels.filter fun level => !(listed table fragments level).isEmpty).map fun level =>
          ⟨level, Help.render s!"Auth level {level} commands." (listed table fragments level)⟩ := by
  refine congrArg (_ :: ·) ?_
  induction levels with
  | nil => rfl
  | cons level rest ih =>
      cases shown : listed table fragments level with
      | nil =>
          rw [List.filterMap_cons_none (by rw [shown]), List.filter_cons_of_neg (by simp [shown])]
          exact ih
      | cons first others =>
          rw [List.filterMap_cons_some (by rw [shown]), List.filter_cons_of_pos (by simp [shown]),
            List.map_cons, shown, ih]

theorem pairwise_levels_helpSections (positive : ∀ level ∈ levels, 1 ≤ level)
    (ascending : levels.Pairwise (· < ·)) :
    ((helpSections menu table fragments levels).map HelpSection.level).Pairwise (· < ·) := by
  have kept : (0 :: levels.filter fun level => !(listed table fragments level).isEmpty).Pairwise
      (· < ·) := by
    refine List.pairwise_cons.2 ⟨fun level present => ?_, ascending.filter _⟩
    have above := positive level (List.mem_of_mem_filter present)
    omega
  rw [helpSections_eq]
  simpa [Function.comp_def] using kept

theorem exists_rows_of_mem_helpSections (graded : ∀ command ∈ table, command.Graded levels)
    (positive : ∀ level ∈ levels, 1 ≤ level) {part : HelpSection}
    (present : part ∈ helpSections menu table fragments levels) :
    ∃ rows, part.text = Text.terminated (part.heading menu :: "" :: rows) ∧
      List.Forall₂ Help.Shows rows (table.filter fun command =>
        command.isListable fragments && decide (command.tier = part.level)) := by
  have written : ∀ part : HelpSection, 0 ≤ part.level →
      part.text = Help.render (part.heading menu) (listed table fragments part.level) →
      ∃ rows, part.text = Text.terminated (part.heading menu :: "" :: rows) ∧
        List.Forall₂ Help.Shows rows (table.filter fun command =>
          command.isListable fragments && decide (command.tier = part.level)) := by
    intro part low text
    rw [text, ← listed_eq_filter graded positive fragments low]
    exact Help.exists_rows_render _ _
  rw [helpSections_eq, List.mem_cons, List.mem_map] at present
  rcases present with rfl | ⟨level, inside, rfl⟩
  · exact written _ (Int.le_refl 0) rfl
  · have above := positive level (List.mem_of_mem_filter inside)
    refine written _ (by simp only; omega) ?_
    rw [HelpSection.heading, if_neg (by simp only; omega)]

/-- Whatever the levels are, a section shows commands of the table. -/
theorem exists_shown_of_mem_helpSections (named : '\n' ∉ menu.toList) {part : HelpSection}
    (present : part ∈ helpSections menu table fragments levels) :
    ∃ heading rows commands, part.text = Text.terminated (heading :: "" :: rows) ∧
      '\n' ∉ heading.toList ∧ List.Forall₂ Help.Shows rows commands ∧
        ∀ command ∈ commands, command ∈ table := by
  have shown (heading : String) (headed : '\n' ∉ heading.toList) (level : Int) :
      ∃ rows commands, Help.render heading (listed table fragments level) =
          Text.terminated (heading :: "" :: rows) ∧
        '\n' ∉ heading.toList ∧ List.Forall₂ Help.Shows rows commands ∧
          ∀ command ∈ commands, command ∈ table := by
    obtain ⟨rows, text, each⟩ := Help.exists_rows_render heading (listed table fragments level)
    exact ⟨rows, _, text, headed, each, fun command => List.mem_of_mem_filter⟩
  rw [helpSections_eq, List.mem_cons, List.mem_map] at present
  rcases present with rfl | ⟨level, _, rfl⟩
  · exact ⟨_, shown _ ((Text.IsUnbroken.append (by decide) named).append (by decide)) 0⟩
  · exact ⟨_, shown _ ((Text.IsUnbroken.append (by decide)
      (Text.isUnbroken_toString_int level)).append (by decide)) level⟩

/-- Every command that can be listed finds a section of its level. -/
theorem exists_section (menu : String) (graded : ∀ command ∈ table, command.Graded levels)
    (positive : ∀ level ∈ levels, 1 ≤ level) {command : Command} (present : command ∈ table)
    (listable : command.isListable fragments = true) :
    ∃ part ∈ helpSections menu table fragments levels, part.level = command.tier := by
  rw [helpSections_eq]
  rcases (graded command present).access_cases with ⟨_, zero⟩ | ⟨_, inside⟩
  · exact ⟨_, List.mem_cons_self, zero.symm⟩
  · have above := positive _ inside
    have shown : command ∈ listed table fragments command.tier := by
      rw [listed_eq_filter graded positive fragments (by omega)]
      exact List.mem_filter.2 ⟨present, by simp [listable]⟩
    have kept : (!(listed table fragments command.tier).isEmpty) = true := by
      simpa using List.ne_nil_of_mem shown
    exact ⟨_, List.mem_cons_of_mem _ (List.mem_map_of_mem (List.mem_filter.2 ⟨inside, kept⟩)), rfl⟩

end MenuPlan

/-- What is listed with a script runs that script. -/
theorem Command.Graded.resolve_eq {levels : List Int} {command : Command}
    (graded : command.Graded levels) {fragments : Fragments}
    (listable : command.isListable fragments = true) {name : String}
    (scripted : command.script = some (.str name)) (dialect : Dialect) :
    command.resolve dialect fragments = .fragment name := by
  have known : fragments.has name = true := by
    simp only [isListable, scripted, Bool.and_eq_true, Option.all_some, Json.string?,
      Option.any_some] at listable
    exact listable.2
  have found : fragments.scriptOf? command = some name := by
    simp [Fragments.scriptOf?, scripted, Json.string?, known]
  simp only [resolve, (graded.script _ scripted).1, found]

/-! ## Specs -/

structure Spec.Graded (spec : Spec) : Prop where
  positive : ∀ level ∈ spec.levels, 1 ≤ level
  commands : ∀ menu ∈ spec.menus, ∀ command ∈ menu.commands, command.Graded spec.levels

theorem Spec.Typed.graded {spec : Spec} (typed : spec.Typed) : spec.Graded where
  positive := by
    intro level present
    obtain ⟨method, inside, rfl⟩ := List.mem_map.1 present
    exact (typed.auth method inside).level
  commands := by
    intro menu declared command present
    have written := (typed.menus menu declared).commands command present
    refine ⟨typed.reachable menu declared command present, fun script named => ?_⟩
    obtain ⟨name, same, _⟩ := written.script script named
    exact ⟨written.declared, name, same⟩

theorem Spec.Graded.of_mem_table {spec : Spec} (graded : spec.Graded) {menu : Menu}
    (declared : menu ∈ spec.menus) {command : Command}
    (present : command ∈ Table.ofMenu menu spec.levels) : command.Graded spec.levels := by
  rcases Table.mem_ofMenu present with written | given
  · exact graded.commands menu declared command written
  · obtain ⟨_, free, unscripted, _⟩ := Table.plain_of_mem_builtins given
    exact ⟨by simp [Command.Reachable, free], by simp [unscripted]⟩

theorem Spec.pairwise_levels (spec : Spec) : spec.levels.Pairwise (· < ·) :=
  List.pairwise_map.2 spec.auth.ascending

/-- The sections of a menu go up from level zero, and below its heading each has a row for every
command of its level that can be listed, in the order of the table, and no other. Where no row has a
line feed the rows are the lines of the text. A command that no other is mixed up with has its row
in one section if it can be listed, and in none if it cannot; a script that is listed is the one
that runs. Documents that are accepted make such specs. -/
theorem help_sections_partition_commands (spec : Spec) :
    (∀ payload source, Schema.description.violations payload = [] →
      Spec.ofJson payload source = .ok spec → spec.Graded) ∧
    (spec.Graded → ∀ menu ∈ spec.menus, ∀ (dialect : Dialect) (fragments : Fragments),
      let table := Table.ofMenu menu spec.levels
      let sections := (MenuPlan.ofMenu menu spec.levels dialect fragments).help
      (sections.map HelpSection.level).Pairwise (· < ·) ∧
      (sections.map HelpSection.level).head? = some 0 ∧
      (∀ part ∈ sections, ∃ rows,
        part.text = Text.terminated (part.heading menu.name :: "" :: rows) ∧
        List.Forall₂ Help.Shows rows (table.filter fun command =>
          command.isListable fragments && decide (command.tier = part.level)) ∧
        ('\n' ∉ menu.name.toList → (∀ command ∈ table, Help.OneLine command) →
          part.rows = rows)) ∧
      (∀ command ∈ table, command.isListable fragments = true →
        ∃ part ∈ sections, part.level = command.tier) ∧
      ('\n' ∉ menu.name.toList → (∀ command ∈ table, Help.OneLine command) →
        ∀ command ∈ table, Help.ToldApart table command →
          (command.isListable fragments = true → ∃ part ∈ sections, part.level = command.tier ∧
            ∀ other ∈ sections, (∃ row ∈ other.rows, Help.Shows row command) ↔ other = part) ∧
          (command.isListable fragments = false →
            ∀ part ∈ sections, ∀ row ∈ part.rows, ¬ Help.Shows row command)) ∧
      ∀ command ∈ table, command.isListable fragments = true →
        ∀ name, command.script = some (.str name) →
          command.resolve dialect fragments = .fragment name) := by
  refine ⟨fun payload source accepted read => ?_, fun graded menu declared dialect fragments => ?_⟩
  · exact ((Spec.ofJson_ends (Schema.violations_eq_nil_iff.1 accepted)).of_eq_ok read).1.graded
  intro table sections
  have fits : ∀ command ∈ table, command.Graded spec.levels :=
    fun command present => graded.of_mem_table declared present
  have ascending : (sections.map HelpSection.level).Pairwise (· < ·) :=
    MenuPlan.pairwise_levels_helpSections graded.positive spec.pairwise_levels
  have lined : ∀ part ∈ sections, ∃ rows,
      part.text = Text.terminated (part.heading menu.name :: "" :: rows) ∧
      List.Forall₂ Help.Shows rows (table.filter fun command =>
        command.isListable fragments && decide (command.tier = part.level)) ∧
      ('\n' ∉ menu.name.toList → (∀ command ∈ table, Help.OneLine command) →
        part.rows = rows) := by
    intro part present
    obtain ⟨rows, text, shown⟩ :=
      MenuPlan.exists_rows_of_mem_helpSections fits graded.positive present
    refine ⟨rows, text, shown, fun named whole =>
      part.rows_eq text (part.newline_not_mem_heading named) (Help.newline_not_mem_rows shown ?_)⟩
    exact fun command inside => whole command (List.mem_of_mem_filter inside)
  have placed : ∀ command ∈ table, command.isListable fragments = true →
      ∃ part ∈ sections, part.level = command.tier := fun command present listable =>
    MenuPlan.exists_section menu.name fits graded.positive present listable
  refine ⟨ascending, rfl, lined, placed, fun named whole command present apart => ?_,
    fun command present listable name scripted =>
      (fits command present).resolve_eq listable scripted dialect⟩
  have shown_iff : ∀ part ∈ sections, (∃ row ∈ part.rows, Help.Shows row command) ↔
      command.isListable fragments = true ∧ command.tier = part.level := by
    intro part inside
    obtain ⟨rows, _, shown, same⟩ := lined part inside
    rw [same named whole,
      Help.exists_row_iff shown (fun other listed => List.mem_of_mem_filter listed) apart]
    simp [present]
  constructor
  · intro listable
    obtain ⟨part, inside, level⟩ := placed command present listable
    refine ⟨part, inside, level, fun other there => ?_⟩
    rw [shown_iff other there]
    constructor
    · rintro ⟨_, tier⟩
      exact HelpSection.eq_of_level_eq ascending there inside (tier.symm.trans level.symm)
    · rintro rfl
      exact ⟨listable, level.symm⟩
  · intro hidden part inside row placed shows
    have listable := ((shown_iff part inside).1 ⟨row, placed, shows⟩).1
    rw [hidden] at listable
    cases listable

def deployCommand : Command where
  name := "deploy"
  description := "Deploy."
  access := some (.int 2)
  script := some (.str "deploy")
  bashBody := some (.single "echo deploy")

def absentCommand : Command where
  name := "absent"
  description := "Absent."
  script := some (.str "absent")

def tieredMenu : Menu where
  name := "main"
  commands := [deployCommand, absentCommand]

def tieredSpec : Spec :=
  demoSpec tieredMenu.commands [1, 2]

def tieredDocument : Json :=
  demoDocument [
    ("deploy", .obj [("description", .str "Deploy."), ("access", .int 2),
      ("script", .str "deploy"), ("bashCommand", .str "echo deploy")]),
    ("absent", .obj [("description", .str "Absent."), ("script", .str "absent")])]
    [demoAuth ["2", "1"]]

/-- The level in between has nothing to show, and one of the scripts is not at hand. -/
theorem tieredDocument_help_sections :
    let fragments : Fragments := ⟨"sh", [("deploy", "echo run")]⟩
    let sections := (MenuPlan.ofMenu tieredMenu tieredSpec.levels .bash fragments).help
    Schema.description.violations tieredDocument = [] ∧
    Spec.ofJson tieredDocument "cli.json" = .ok tieredSpec ∧
    (∃ part ∈ sections, part.level = 2 ∧ ∀ other ∈ sections,
      (∃ row ∈ other.rows, Help.Shows row deployCommand) ↔ other = part) ∧
    (∀ part ∈ sections, ∀ row ∈ part.rows, ¬ Help.Shows row absentCommand) ∧
    deployCommand.resolve .bash fragments = .fragment "deploy" := by
  intro fragments sections
  have accepted : Schema.description.violations tieredDocument = [] := by decide +kernel
  have read : Spec.ofJson tieredDocument "cli.json" = .ok tieredSpec := rfl
  obtain ⟨accepts, meets⟩ := help_sections_partition_commands tieredSpec
  obtain ⟨_, _, _, _, once, resolves⟩ := meets (accepts tieredDocument "cli.json" accepted read)
    tieredMenu List.mem_cons_self .bash fragments
  have names : ∀ command ∈ Table.ofMenu tieredMenu tieredSpec.levels,
      (∀ name ∈ command.names, '\n' ∉ name.toList) ∧
      (∀ arg ∈ command.args, '\n' ∉ arg.name.toList) ∧ '\n' ∉ command.description.toList := by
    decide +kernel
  have solid : ∀ command ∈ Table.ofMenu tieredMenu tieredSpec.levels,
      '|' ∉ command.name.toList ∧ ' ' ∉ command.name.toList := by
    decide +kernel
  have distinct : ((Table.ofMenu tieredMenu tieredSpec.levels).map Command.name).Nodup := by
    decide +kernel
  have apart := fun command present => once (by decide)
    (fun command inside => ⟨(names command inside).1, (names command inside).2.1,
      (names command inside).2.2⟩)
    command present (Help.toldApart_of_names distinct solid present)
  have first : deployCommand ∈ Table.ofMenu tieredMenu tieredSpec.levels := List.mem_cons_self
  have second : absentCommand ∈ Table.ofMenu tieredMenu tieredSpec.levels :=
    List.mem_cons_of_mem _ List.mem_cons_self
  refine ⟨accepted, read, ?_, ?_, ?_⟩
  · exact (apart deployCommand first).1 (by decide +kernel)
  · exact (apart absentCommand second).2 (by decide +kernel)
  · exact resolves deployCommand first (by decide +kernel) "deploy" rfl

end ShellMenu
