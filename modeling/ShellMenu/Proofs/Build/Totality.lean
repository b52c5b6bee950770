import ShellMenu.Artifact
import ShellMenu.Proofs.Plan.Writable
import ShellMenu.Proofs.Spec.Demo

/-
  A build from an accepted document. The passes are followed in their order: the plans, the
  fragments, the access levels, and the menus with their splash screens. An unknown color of a
  splash screen is the one thing that can stop them.
-/

namespace ShellMenu

theorem Command.Writable.namesAreText {command : Command} (writable : command.Writable) :
    command.namesAreText = true := by
  refine List.all_eq_true.2 fun name present => ?_
  obtain ⟨text, rfl⟩ := writable.aliases name present
  rfl

/-! ## Plans and fragments -/

theorem MenuPlan.check_eq_ok {menu : Menu} {levels : List Int} (writable : menu.Writable levels)
    (fragments : Fragments) : MenuPlan.check menu levels fragments = .ok () := by
  have scripts : (Table.ofMenu menu levels).forM Command.checkScript = .ok () := by
    refine forM_eq_ok fun command present => ?_
    unfold Command.checkScript
    split
    · next script _ named => rw [if_pos ((writable.table command present).script script named)]
    · rfl
  have helps : (0 :: levels).forM (fun level =>
      Help.check (listed (Table.ofMenu menu levels) fragments level)) = .ok () := by
    refine forM_eq_ok fun level _ => if_pos (List.all_eq_true.2 fun command shown => ?_)
    exact (writable.table command (List.mem_of_mem_filter shown)).namesAreText
  show (do
    (Table.ofMenu menu levels).forM Command.checkScript
    (0 :: levels).forM fun level =>
      Help.check (listed (Table.ofMenu menu levels) fragments level)) = _
  rw [scripts]
  exact helps

theorem Spec.checkPlans_eq_ok {spec : Spec}
    (writable : ∀ menu ∈ spec.menus, menu.Writable spec.levels) (fragments : Fragments) :
    spec.checkPlans fragments = .ok () :=
  forM_eq_ok fun menu present => MenuPlan.check_eq_ok (writable menu present) fragments

theorem Command.has_of_resolve {command : Command} {dialect : Dialect} {fragments : Fragments}
    {name : String} (resolved : command.resolve dialect fragments = .fragment name) :
    fragments.has name = true := by
  unfold Command.resolve at resolved
  split at resolved
  · cases resolved
  · split at resolved
    · next found =>
        cases resolved
        exact (Option.filter_eq_some_iff.1 found).2
    · split at resolved
      · cases resolved
      · cases resolved

theorem Command.builtin_of_resolve {command : Command} {dialect : Dialect} {fragments : Fragments}
    {builtin : Builtin} (resolved : command.resolve dialect fragments = .builtin builtin) :
    command.builtin = some builtin := by
  unfold Command.resolve at resolved
  split at resolved
  · next found =>
      cases resolved
      exact found
  · split at resolved
    · cases resolved
    · split at resolved
      · cases resolved
      · cases resolved

/-- A plan asks for no fragment that is not at hand. -/
theorem MenuPlan.has_of_mem_fragments {menu : Menu} {levels : List Int} {dialect : Dialect}
    {fragments : Fragments} {entry : Command × String}
    (present : entry ∈ (MenuPlan.ofMenu menu levels dialect fragments).fragments) :
    fragments.has entry.2 = true := by
  obtain ⟨planned, inside, taken⟩ := List.mem_filterMap.1 present
  obtain ⟨command, _, rfl⟩ := List.mem_map.1 inside
  simp only at taken
  split at taken
  · next resolved =>
      cases taken
      exact Command.has_of_resolve resolved
  · cases taken

theorem Fragments.read_ends {fragments : Fragments} {name : String}
    (present : fragments.has name = true) : Ends (fun _ => True) Never (fragments.read name) := by
  obtain ⟨text, found⟩ := Option.isSome_iff_exists.1 present
  simp only [Fragments.read, found]
  exact trivial

theorem Bash.fragmentRoutines_ends (menu : Menu) (levels : List Int) (fragments : Fragments) :
    Ends (fun _ => True) Never
      (Bash.fragmentRoutines fragments (MenuPlan.ofMenu menu levels .bash fragments)) := by
  refine Ends.mapM_done fun entry present => ?_
  exact Ends.bind (Fragments.read_ends (MenuPlan.has_of_mem_fragments present)) fun _ _ =>
    Ends.ok trivial

theorem Batch.fragmentRoutines_ends (menu : Menu) (levels : List Int) (fragments : Fragments) :
    Ends (fun _ => True) Never
      (Batch.fragmentRoutines fragments (MenuPlan.ofMenu menu levels .batch fragments)) := by
  refine Ends.mapM_done fun entry present => ?_
  exact Ends.bind (Fragments.read_ends (MenuPlan.has_of_mem_fragments present)) fun _ _ =>
    Ends.ok trivial

theorem Bash.authRoutine_ends {method : AuthMethod} (typed : method.Typed) :
    Ends (fun _ => True) Never (Bash.authRoutine method) := by
  unfold Bash.authRoutine Bash.levelRoutine
  rw [typed.kind]
  exact trivial

theorem Batch.authRoutine_ends {method : AuthMethod} (typed : method.Typed) :
    Ends (fun _ => True) Never (Batch.authRoutine method) := by
  unfold Batch.authRoutine Batch.levelRoutine
  rw [typed.kind]
  exact trivial

/-! ## Splash screens -/

/-- The menu draws its splash screen in a color that is neither the rainbow nor in the table. -/
def Menu.ShowsUnknownColor (menu : Menu) (color : String) : Prop :=
  (∃ text font, menu.splash = some (.art text font (some (.str color))))
    ∧ Text.isEmpty color = false ∧ Text.lower color ≠ "rainbow"
    ∧ Text.upper color ∉ Variables.colorNames

def UnknownColor (menus : List Menu) (error : Error) : Prop :=
  ∃ menu ∈ menus, ∃ color, menu.ShowsUnknownColor color ∧ error = .fault (.unknownColor color)

theorem Banner.isKnownColor_eq_true_iff {color : String} :
    isKnownColor color = true ↔
      Text.lower color = "rainbow" ∨ Text.upper color ∈ Variables.colorNames := by
  simp only [isKnownColor, isRainbow, Bool.or_eq_true, decide_eq_true_eq, List.contains_iff_mem]

theorem Banner.colorText_str (name : String) :
    colorText (some (.str name)) = .ok (if Text.isEmpty name then none else some name) := by
  cases empty : Text.isEmpty name with
  | true =>
      simp only [colorText, Option.filter, Json.isSomething, empty]
      rfl
  | false =>
      simp only [colorText, Option.filter, Json.isSomething, empty]
      rfl

theorem Banner.render_art_ends (sanitize : String → String) {renderer : Renderer} {text font : Json}
    {art : String} (drawn : renderer text font = .ok art) (color : String) :
    Ends (fun _ => Text.isEmpty color = true ∨ isKnownColor color = true)
      (fun error => (Text.isEmpty color = false ∧ isKnownColor color = false) ∧
        error = .fault (.unknownColor color))
      (render sanitize renderer (some (.art text font (some (.str color))))) := by
  simp only [render, colorText_str, drawn]
  cases empty : Text.isEmpty color with
  | true => exact Or.inl rfl
  | false =>
      cases known : isKnownColor color with
      | true =>
          simp only [Bool.false_eq_true, if_false, bind, Except.bind, known, Bool.not_true]
          exact Or.inr trivial
      | false =>
          simp only [Bool.false_eq_true, if_false, bind, Except.bind, known, Bool.not_false,
            if_true]
          exact ⟨⟨trivial, trivial⟩, rfl⟩

theorem Menu.render_ends {menu : Menu} (typed : ∀ splash, menu.splash = some splash → splash.Typed)
    (sanitize : String → String) {renderer : Banner.Renderer}
    (draws : ∀ text font, ∃ art, renderer text font = .ok art) :
    Ends (fun _ => ∀ color, ¬ menu.ShowsUnknownColor color)
      (fun error => ∃ color, menu.ShowsUnknownColor color ∧ error = .fault (.unknownColor color))
      (Banner.render sanitize renderer menu.splash) := by
  have colorless : (∀ text font color, menu.splash ≠ some (.art text font (some color))) →
      ∀ color, ¬ menu.ShowsUnknownColor color := by
    rintro none color ⟨⟨text, font, same⟩, _⟩
    exact none text font (.str color) same
  cases shown : menu.splash with
  | none => exact Ends.ok (colorless (by simp [shown]))
  | some splash =>
      cases splash with
      | plain text => exact Ends.ok (colorless (by simp [shown]))
      | art text font color =>
          obtain ⟨art, drawn⟩ := draws text font
          cases color with
          | none =>
              simp only [Banner.render, Banner.colorText, drawn]
              exact colorless (by simp [shown])
          | some color =>
              obtain ⟨color, rfl⟩ := typed _ shown color rfl
              refine (Banner.render_art_ends sanitize drawn color).mono (fun _ fine => ?_) ?_
              · rintro other ⟨⟨_, _, same⟩, visible, unknown⟩
                simp only [shown, Option.some.injEq, Splash.art.injEq, Json.str.injEq] at same
                obtain ⟨_, _, rfl⟩ := same
                rcases fine with empty | known
                · exact Bool.false_ne_true (visible.symm.trans empty)
                · rcases Banner.isKnownColor_eq_true_iff.1 known with rainbow | listed
                  · exact unknown.1 rainbow
                  · exact unknown.2 listed
              · rintro error ⟨⟨visible, unknown⟩, rfl⟩
                have neither := mt Banner.isKnownColor_eq_true_iff.2 (Bool.eq_false_iff.1 unknown)
                exact ⟨color, ⟨⟨text, font, shown⟩, visible, not_or.1 neither⟩, rfl⟩

/-! ## Menus -/

theorem Arg.Writable.checkBounds_eq_ok {arg : Arg} (writable : arg.Writable) :
    arg.checkBounds = .ok () :=
  forM_eq_ok fun bound present => discard_eq_ok (if_pos (writable.bounds bound present))

theorem Bash.checkArg_eq_ok {arg : Arg} (writable : arg.Writable) :
    Bash.checkArg arg = .ok () := by
  unfold Bash.checkArg
  rw [writable.checkBounds_eq_ok]
  cases given : arg.fallback with
  | none =>
      simp only [Arg.prompt, writable.prompting]
      rfl
  | some value =>
      simp only [Bash.checkWord, writable.fallback value given]
      rfl

theorem Batch.checkArg_eq_ok {arg : Arg} (writable : arg.Writable) :
    Batch.checkArg arg = .ok () := by
  unfold Batch.checkArg Batch.checkPrompt
  rw [writable.checkBounds_eq_ok, writable.prompting]
  cases arg.fallback with
  | none => rfl
  | some value => rfl

theorem Bash.checkArm_eq_ok {planned : PlannedCommand} (writable : planned.command.Writable) :
    Bash.checkArm planned = .ok () := by
  have names : Bash.checkNames planned.command = .ok () := by
    refine forM_eq_ok fun name present => ?_
    obtain ⟨text, rfl⟩ := writable.aliases name present
    rfl
  have args : planned.command.args.forM Bash.checkArg = .ok () :=
    forM_eq_ok fun arg present => Bash.checkArg_eq_ok (writable.args arg present)
  unfold Bash.checkArm
  rw [names, args]
  cases planned.isSupported with
  | true => rfl
  | false => rfl

theorem Batch.checkBlock_eq_ok {planned : PlannedCommand} (writable : planned.command.Writable) :
    Batch.checkBlock planned = .ok () := by
  have args : planned.command.args.forM Batch.checkArg = .ok () :=
    forM_eq_ok fun arg present => Batch.checkArg_eq_ok (writable.args arg present)
  unfold Batch.checkBlock
  rw [args]
  cases planned.isSupported with
  | true => rfl
  | false => rfl

theorem Bash.checkMenu_eq_ok {menu : Menu} {levels : List Int} (writable : menu.Writable levels)
    (fragments : Fragments) :
    Bash.checkMenu (MenuPlan.ofMenu menu levels .bash fragments) = .ok () := by
  have arms : (MenuPlan.ofMenu menu levels .bash fragments).commands.forM Bash.checkArm = .ok () :=
    forM_eq_ok fun planned present =>
      Bash.checkArm_eq_ok (writable.table _ (MenuPlan.mem_commands present).1)
  obtain ⟨lead, leads⟩ := writable.lead
  have header : (menu.header.filter Json.isSomething).forM (fun header => discard header.text) =
      (.ok () : Result Unit) := by
    cases found : menu.header.filter Json.isSomething with
    | none => rfl
    | some header =>
        obtain ⟨text, rfl⟩ := writable.header header (Option.filter_eq_some_iff.1 found).1
        rfl
  show (do
    (menu.header.filter Json.isSomething).forM fun header => discard header.text
    (MenuPlan.ofMenu menu levels .bash fragments).commands.forM Bash.checkArm
    discard menu.lead.text) = _
  rw [header, arms, leads]
  rfl

theorem Bash.menuRoutines_ends {menu : Menu} {levels : List Int} (writable : menu.Writable levels)
    (fragments : Fragments) {renderer : Banner.Renderer}
    (draws : ∀ text font, ∃ art, renderer text font = .ok art) :
    Ends (fun _ => ∀ color, ¬ menu.ShowsUnknownColor color)
      (fun error => ∃ color, menu.ShowsUnknownColor color ∧ error = .fault (.unknownColor color))
      (Bash.menuRoutines renderer (MenuPlan.ofMenu menu levels .bash fragments)) := by
  refine Ends.bind (Menu.render_ends writable.splash _ draws) fun splash fine => ?_
  exact Ends.after_check (Bash.checkMenu_eq_ok writable fragments) fine

/-- A command that has a block has a body: only the catch-all has none. -/
theorem Batch.bodyStatements_ends {plan : MenuPlan} {levels : List Int} {planned : PlannedCommand}
    {dialect : Dialect} {fragments : Fragments}
    (resolved : planned.body = planned.command.resolve dialect fragments)
    (proper : planned.command.isCatchAll = false) :
    Ends (fun _ => True) Never (Batch.bodyStatements plan levels planned) := by
  unfold Batch.bodyStatements
  split
  · next builtin same =>
      have own := Command.builtin_of_resolve (resolved.symm.trans same)
      cases builtin with
      | catchAll => simp [Command.isCatchAll, own] at proper
      | _ => exact trivial
  · exact trivial
  · exact trivial
  · exact trivial

theorem Batch.block_ends {menu : Menu} {levels : List Int} (writable : menu.Writable levels)
    {fragments : Fragments} {planned : PlannedCommand}
    (present : planned ∈ (MenuPlan.ofMenu menu levels .batch fragments).commands)
    (proper : planned.command.isCatchAll = false) (index : Nat) :
    Ends (fun _ => True) Never
      (Batch.block (MenuPlan.ofMenu menu levels .batch fragments) levels index planned) := by
  obtain ⟨inTable, resolved⟩ := MenuPlan.mem_commands present
  refine Ends.after_check (Batch.checkBlock_eq_ok (writable.table _ inTable)) ?_
  exact Ends.bind (Batch.bodyStatements_ends resolved proper) fun _ _ => Ends.ok trivial

theorem Batch.blocks_ends {menu : Menu} {levels : List Int} (writable : menu.Writable levels)
    (fragments : Fragments) :
    Ends (fun _ => True) Never
      (Batch.blocks (MenuPlan.ofMenu menu levels .batch fragments) levels) := by
  refine Ends.mapM_done ?_
  rintro ⟨planned, index⟩ present
  obtain ⟨numbered, proper⟩ := List.mem_filter.1 present
  have planning := List.fst_mem_of_mem_zipIdx numbered
  exact Batch.block_ends writable planning (by simpa using proper) index

theorem Batch.menuRoutines_ends {menu : Menu} {levels : List Int} (writable : menu.Writable levels)
    (fragments : Fragments) {renderer : Banner.Renderer}
    (draws : ∀ text font, ∃ art, renderer text font = .ok art) :
    Ends (fun _ => ∀ color, ¬ menu.ShowsUnknownColor color)
      (fun error => ∃ color, menu.ShowsUnknownColor color ∧ error = .fault (.unknownColor color))
      (Batch.menuRoutines renderer levels (MenuPlan.ofMenu menu levels .batch fragments)) := by
  obtain ⟨lead, leads⟩ := writable.lead
  have written : Ends (fun _ => True) Never (Batch.processRoutine
      (MenuPlan.ofMenu menu levels .batch fragments) levels) :=
    Ends.bind (Batch.blocks_ends writable fragments) fun _ _ => Ends.ok trivial
  refine Ends.bind (Menu.render_ends writable.splash _ draws) fun splash fine => ?_
  refine Ends.bind written.of_never fun process _ => ?_
  show Ends _ _ (menu.lead.piece >>= _)
  rw [leads]
  exact fine

/-! ## Scripts -/

/-- A pass over the plans of all menus, where each may show an unknown color. -/
theorem Spec.plans_mapM_ends {spec : Spec} {dialect : Dialect} {fragments : Fragments} {β : Type}
    {step : MenuPlan → Result β}
    (each : ∀ menu ∈ spec.menus, Ends (fun _ => ∀ color, ¬ menu.ShowsUnknownColor color)
      (fun error => ∃ color, menu.ShowsUnknownColor color ∧ error = .fault (.unknownColor color))
      (step (MenuPlan.ofMenu menu spec.levels dialect fragments))) :
    Ends (fun _ => ∀ menu ∈ spec.menus, ∀ color, ¬ menu.ShowsUnknownColor color)
      (UnknownColor spec.menus) ((spec.plans dialect fragments).mapM step) := by
  rw [Spec.plans, List.mapM_map]
  refine Ends.mapM_elements fun menu present => ?_
  exact (each menu present).mono (fun _ fine => fine) fun error shows => ⟨menu, present, shows⟩

structure Spec.Writable (spec : Spec) : Prop where
  menus : ∀ menu ∈ spec.menus, menu.Writable spec.levels
  auth : ∀ method ∈ spec.auth.methods, method.Typed

theorem Bash.script_ends {spec : Spec} (writable : spec.Writable) (fragments : Fragments)
    {renderer : Banner.Renderer} (draws : ∀ text font, ∃ art, renderer text font = .ok art) :
    Ends (fun _ => ∀ menu ∈ spec.menus, ∀ color, ¬ menu.ShowsUnknownColor color)
      (UnknownColor spec.menus) (Bash.script spec fragments renderer) := by
  have auth : Ends (fun _ => True) Never (spec.auth.methods.mapM Bash.authRoutine) :=
    Ends.mapM_done fun method present => Bash.authRoutine_ends (writable.auth method present)
  have included : Ends (fun _ => True) Never
      ((spec.plans .bash fragments).mapM (Bash.fragmentRoutines fragments)) := by
    refine Ends.mapM_done fun plan present => ?_
    obtain ⟨menu, _, rfl⟩ := List.mem_map.1 present
    exact Bash.fragmentRoutines_ends menu spec.levels fragments
  refine Ends.after_check (Spec.checkPlans_eq_ok writable.menus fragments) ?_
  refine Ends.bind auth.of_never fun auth _ => Ends.bind included.of_never fun included _ => ?_
  refine Ends.bind (Spec.plans_mapM_ends fun menu present => ?_) fun menus fine => Ends.ok fine
  exact Bash.menuRoutines_ends (writable.menus menu present) fragments draws

theorem Batch.script_ends {spec : Spec} (writable : spec.Writable) (fragments : Fragments)
    {renderer : Banner.Renderer} (draws : ∀ text font, ∃ art, renderer text font = .ok art) :
    Ends (fun _ => ∀ menu ∈ spec.menus, ∀ color, ¬ menu.ShowsUnknownColor color)
      (UnknownColor spec.menus) (Batch.script spec fragments renderer) := by
  have auth : Ends (fun _ => True) Never (spec.auth.methods.mapM Batch.authRoutine) :=
    Ends.mapM_done fun method present => Batch.authRoutine_ends (writable.auth method present)
  have included : Ends (fun _ => True) Never
      ((spec.plans .batch fragments).mapM (Batch.fragmentRoutines fragments)) := by
    refine Ends.mapM_done fun plan present => ?_
    obtain ⟨menu, _, rfl⟩ := List.mem_map.1 present
    exact Batch.fragmentRoutines_ends menu spec.levels fragments
  refine Ends.after_check (Spec.checkPlans_eq_ok writable.menus fragments) ?_
  refine Ends.bind auth.of_never fun auth _ => Ends.bind included.of_never fun included _ => ?_
  refine Ends.bind (Spec.plans_mapM_ends fun menu present => ?_) fun menus fine => Ends.ok fine
  exact Batch.menuRoutines_ends (writable.menus menu present) fragments draws

theorem Context.build_ends {spec : Spec} (writable : spec.Writable) (bash batch : Fragments)
    {renderer : Banner.Renderer} (draws : ∀ text font, ∃ art, renderer text font = .ok art) :
    Ends (fun _ => ∀ menu ∈ spec.menus, ∀ color, ¬ menu.ShowsUnknownColor color)
      (UnknownColor spec.menus) (Context.build ⟨spec, bash, batch⟩ renderer) := by
  have both : Ends (fun _ => ∀ menu ∈ spec.menus, ∀ color, ¬ menu.ShowsUnknownColor color)
      (UnknownColor spec.menus) (Context.scripts ⟨spec, bash, batch⟩ renderer) := by
    refine Ends.bind (Bash.script_ends writable bash draws) fun _ fine => ?_
    exact Ends.bind (Batch.script_ends writable batch draws) fun _ _ => Ends.ok fine
  exact Ends.bind both fun _ fine => Ends.ok fine

/-! ## Accepted documents -/

theorem Spec.ofJson_writable {payload : Json} {source : String} {spec : Spec}
    (accepted : Schema.description.Accepts payload) (within : payload.WithinDigits)
    (read : Spec.ofJson payload source = .ok spec) : spec.Writable := by
  obtain ⟨typed, fits⟩ := (Spec.ofJson_ends accepted).of_eq_ok read
  have short := (Spec.ofJson_short within.integers).of_eq_ok read
  have room := within.short_highest typed.auth fits
  exact ⟨fun menu present => (typed.menus menu present).writable (short menu present) room,
    typed.auth⟩

/-- An accepted document is read or refused with its problems. What was read is built with any
fragments and any renderer that draws everything, unless a splash screen has an unknown color. -/
theorem accepted_document_builds (payload : Json) (source : String)
    (accepted : Schema.description.violations payload = []) (within : payload.WithinDigits) :
    ((∃ spec, Spec.ofJson payload source = .ok spec) ∨
      ∃ problems, Spec.ofJson payload source = failing (.invalidSchema source problems)) ∧
    ∀ spec, Spec.ofJson payload source = .ok spec →
      ∀ (bash batch : Fragments) (renderer : Banner.Renderer),
        (∀ text font, ∃ art, renderer text font = .ok art) →
        ((∃ artifacts, Context.build ⟨spec, bash, batch⟩ renderer = .ok artifacts) ∧
            ∀ menu ∈ spec.menus, ∀ color, ¬ menu.ShowsUnknownColor color) ∨
          ∃ menu ∈ spec.menus, ∃ color, menu.ShowsUnknownColor color ∧
            Context.build ⟨spec, bash, batch⟩ renderer = failing (.unknownColor color) := by
  have fits := Schema.violations_eq_nil_iff.1 accepted
  constructor
  · have ends : Ends _ _ (Spec.ofJson payload source) := Spec.ofJson_ends fits
    cases read : Spec.ofJson payload source with
    | ok spec => exact Or.inl ⟨spec, rfl⟩
    | error error =>
        rw [read] at ends
        rcases ends with ⟨problems, rfl⟩ | long
        · exact Or.inr ⟨problems, rfl⟩
        · exact absurd long within.not_longLevel
  · intro spec read bash batch renderer draws
    have ends := Context.build_ends (Spec.ofJson_writable fits within read) bash batch draws
    cases built : Context.build ⟨spec, bash, batch⟩ renderer with
    | ok artifacts =>
        rw [built] at ends
        exact Or.inl ⟨⟨artifacts, rfl⟩, ends⟩
    | error error =>
        rw [built] at ends
        obtain ⟨menu, present, color, shows, rfl⟩ := ends
        exact Or.inr ⟨menu, present, color, shows, rfl⟩

/-- A gated command with bounds, and lettering in a color that is not in the table. -/
def mauveDocument : Json :=
  demoMenuDocument [
    ("splash", .obj [("text", .str "Demo"), ("font", .str "slant"), ("color", .str "mauve")]),
    ("commands", .obj [("go", .obj [
      ("description", .str "Go."), ("access", .int 2), ("aliases", .arr [.str "g"]),
      ("args", .obj [("steps", .obj [("minValue", .int 1), ("maxValue", .int 9)])])])])]
    [demoAuth ["2"]]

theorem mauveDocument_builds_or_shows_its_color :
    Schema.description.violations mauveDocument = [] ∧ mauveDocument.WithinDigits ∧
    ∃ spec, Spec.ofJson mauveDocument "cli.json" = .ok spec ∧
      (((∃ artifacts, Context.build ⟨spec, ⟨"sh", []⟩, ⟨"bat", []⟩⟩ (fun _ _ => .ok "#") =
            .ok artifacts) ∧
          ∀ menu ∈ spec.menus, ∀ color, ¬ menu.ShowsUnknownColor color) ∨
        ∃ menu ∈ spec.menus, ∃ color, menu.ShowsUnknownColor color ∧
          Context.build ⟨spec, ⟨"sh", []⟩, ⟨"bat", []⟩⟩ (fun _ _ => .ok "#") =
            failing (.unknownColor color)) := by
  have accepted : Schema.description.violations mauveDocument = [] := by decide +kernel
  have within : mauveDocument.WithinDigits := ⟨by decide +kernel, by decide +kernel⟩
  have read : ∃ spec, Spec.ofJson mauveDocument "cli.json" = .ok spec := ⟨_, rfl⟩
  obtain ⟨spec, read⟩ := read
  refine ⟨accepted, within, spec, read, ?_⟩
  exact (accepted_document_builds mauveDocument "cli.json" accepted within).2 spec read _ _ _
    fun _ _ => ⟨"#", rfl⟩

end ShellMenu
