import ShellMenu.Files.Project
import ShellMenu.Proofs.Files.StoredJson
import ShellMenu.Proofs.Files.Tree
import ShellMenu.Proofs.Plan.Table
import ShellMenu.Proofs.Spec.Demo
import ShellMenu.Proofs.Spec.Typed

/-
  The fragments of a project. A script has a fragment in a dialect exactly if the file is there, and
  then its commands run that text. That a file is missing keeps nothing from being read. But the
  names of scripts have no longest length and those of files do, and about a file whose name is too
  long the file system does not say that it is missing.
-/

namespace ShellMenu

/-! ## Scripts of commands -/

/-- Some declared command names the script. -/
def Spec.Runs (spec : Spec) (script : String) : Prop :=
  ∃ menu ∈ spec.menus, ∃ command ∈ menu.commands, command.script = some (.str script)

namespace Command

variable {command : Command} (declared : command.builtin = none) {dialect : Dialect}
  {fragments : Fragments}
include declared

theorem resolve_eq_fragment_iff {script : String} :
    command.resolve dialect fragments = .fragment script ↔
      command.script = some (.str script) ∧ fragments.has script = true := by
  have named : command.script.bind Json.string? = some script ↔
      command.script = some (.str script) := by
    cases command.script with
    | none => simp
    | some value =>
        cases value with
        | str text => simp [Json.string?]
        | _ => simp [Json.string?]
  have found : fragments.scriptOf? command = some script ↔
      command.script = some (.str script) ∧ fragments.has script = true := by
    unfold Fragments.scriptOf?
    rw [Option.filter_eq_some_iff, named]
  unfold resolve
  rw [declared, ← found]
  cases fragments.scriptOf? command with
  | none => cases command.inline dialect <;> simp
  | some name => simp

theorem resolve_eq_inline (apart : ∀ script, command.resolve dialect fragments ≠ .fragment script) :
    command.resolve dialect fragments =
      match command.inline dialect with
      | some body => .inline body
      | none => .unsupported := by
  unfold resolve at apart ⊢
  rw [declared] at apart ⊢
  cases found : fragments.scriptOf? command with
  | none => rfl
  | some name => exact absurd (by rw [found]) (apart name)

end Command

/-! ## Names of fragments -/

/-- Nothing outside of the pattern is in a name, apart from a line feed at its end. -/
theorem not_mem_of_fileStem {script : String} (named : Pattern.fileStem.accepts script = true)
    {c : Char} (unlisted : Pattern.fileStem.rest.has c = false) (inside : c ≠ '\n') :
    c ∉ script.toList := by
  intro present
  obtain ⟨body, ending, chars, newline, fit⟩ := Pattern.exists_fits_of_accepts named
  rw [chars, List.mem_append] at present
  rcases present with early | late
  · obtain ⟨listed, _⟩ := Bool.and_eq_true_iff.1 (show
      (body.all Pattern.fileStem.rest.has && Pattern.fileStem.count.allows body.length) = true
        from fit)
    have allowed := List.all_eq_true.1 listed c early
    rw [unlisted] at allowed
    cases allowed
  · rcases newline with rfl | rfl
    · cases late
    · exact inside (List.mem_singleton.1 late)

theorem toList_fileName (extension script : String) :
    (Fragments.fileName extension script).toList = script.toList ++ '.' :: extension.toList := by
  simp [Fragments.fileName, toString]

theorem one_lt_length_fileName (dialect : Dialect) (script : String) :
    1 < (Fragments.fileName dialect.extension script).toList.length := by
  rw [toList_fileName, List.length_append, List.length_cons]
  cases dialect with
  | bash => exact Nat.lt_of_lt_of_le (by decide) (Nat.le_add_left _ _)
  | batch => exact Nat.lt_of_lt_of_le (by decide) (Nat.le_add_left _ _)

theorem not_mem_fileName {script : String} (named : Pattern.fileStem.accepts script = true)
    (dialect : Dialect) {c : Char} (unlisted : Pattern.fileStem.rest.has c = false)
    (inside : c ≠ '\n') : c ∉ (Fragments.fileName dialect.extension script).toList := by
  have listed : ('.' :: dialect.extension.toList).all Pattern.fileStem.rest.has = true := by
    cases dialect with
    | bash => decide
    | batch => decide
  rw [toList_fileName, List.mem_append]
  rintro (inScript | later)
  · exact not_mem_of_fileStem named unlisted inside inScript
  · have allowed := List.all_eq_true.1 listed c later
    rw [unlisted] at allowed
    cases allowed

namespace Path

theorem child_of_plain {name : String} (plain : '/' ∉ name.toList) (long : 1 < name.toList.length)
    (path : Path) : path.child name = { path with parts := path.parts ++ [name] } := by
  have relative : Text.startsWith name "/" = false := by
    refine Bool.eq_false_iff.2 fun slash => plain ?_
    exact (List.isPrefixOf_iff_prefix.1 slash).subset List.mem_cons_self
  have something : Text.isEmpty name = false := by
    unfold Text.isEmpty
    cases chars : name.toList with
    | nil => simp [chars] at long
    | cons c rest => rfl
  have dotted : name.toList ≠ ['.'] := fun dot => by simp [dot] at long
  unfold child join ofText
  rw [Text.splitAt_of_not_mem plain]
  simp [relative, something, dotted]

theorem text_concat (path : Path) (below : path.parts ≠ []) (name : String) :
    ({ path with parts := path.parts ++ [name] } : Path).text = path.text ++ "/" ++ name := by
  unfold text
  rw [String.intercalate_append_of_ne_nil below (by simp), String.intercalate_singleton]
  split
  · simp [String.append_assoc]
  · simp [below]

end Path

namespace FileTree

theorem fragmentPath_eq {script : String} (named : Pattern.fileStem.accepts script = true)
    (directory : Path) (dialect : Dialect) :
    fragmentPath directory dialect script =
      { directory with parts :=
          directory.parts ++ ["funcs"] ++ [Fragments.fileName dialect.extension script] } := by
  have plain := not_mem_fileName named dialect (c := '/') (by decide) (by decide)
  unfold fragmentPath
  rw [Path.child_of_plain (show '/' ∉ "funcs".toList by decide) (by decide),
    Path.child_of_plain plain (one_lt_length_fileName dialect script)]

/-! ## Files of fragments -/

/-- The file system takes no path of that length, or no such name in a directory that is there. -/
def TooLong (tree : FileTree) (base directory : Path) (dialect : Dialect) (script : String) :
    Prop :=
  longestPath < (fragmentPath directory dialect script).text.utf8ByteSize ∨
    tree.entry base (directory.child "funcs") = .ok .directory ∧
      longestName < (Fragments.fileName dialect.extension script).utf8ByteSize

theorem entry_of_locate {tree : FileTree} {base path : Path} {place : List String}
    (reached : tree.locate base path = .ok place) :
    tree.entry base path =
      match tree.get? place with
      | some entry => .ok entry
      | none => .error .missing := by
  unfold FileTree.entry
  rw [reached]
  rfl

theorem entry_of_locate_error {tree : FileTree} {base path : Path} {problem : FileProblem}
    (refused : tree.locate base path = .error problem) : tree.entry base path = .error problem := by
  unfold FileTree.entry
  rw [refused]
  rfl

section Project

variable {tree : FileTree} {base directory : Path} {dialect : Dialect} {script : String}
  (there : tree.isDirectory base directory = .ok true)
  (named : Pattern.fileStem.accepts script = true)

include there in
theorem exists_place_of_isDirectory :
    directory.hasNul = false ∧ ∃ place,
      tree.walk (start base directory) directory.parts = .ok place ∧
        tree.get? place = some .directory := by
  obtain ⟨seen, looked, isDirectory⟩ := exists_of_bind_eq_ok there
  have directorySeen : seen = some .directory := by simpa using Except.ok.inj isDirectory
  subst directorySeen
  obtain ⟨nul, place, reached, held⟩ := locate_of_look looked
  rw [locate_eq_walk] at reached
  split at reached
  · cases reached
  · exact ⟨nul, place, reached, held⟩

include there named in
/-- A path that is not too long leads to the directory of the fragments, and from there on. -/
theorem exists_locate_funcs
    (short : ¬ longestPath < (fragmentPath directory dialect script).text.utf8ByteSize) :
    ∃ place, tree.locate base (directory.child "funcs") = .ok place ∧
      tree.locate base (fragmentPath directory dialect script) =
        tree.walk place [Fragments.fileName dialect.extension script] := by
  obtain ⟨_, place, reached, held⟩ := exists_place_of_isDirectory there
  have path := fragmentPath_eq named directory dialect
  have funcs : directory.child "funcs" = { directory with parts := directory.parts ++ ["funcs"] } :=
    Path.child_of_plain (by decide) (by decide) directory
  have walked : tree.walk (start base directory) (directory.parts ++ ["funcs"]) =
      .ok (place ++ ["funcs"]) := by
    rw [walk_append, reached]
    show tree.walk place ["funcs"] = _
    rw [walk_cons_directory held, if_neg (by decide)]
    rfl
  have text : (fragmentPath directory dialect script).text =
      (directory.child "funcs").text ++ "/" ++ Fragments.fileName dialect.extension script := by
    rw [path, funcs]
    exact Path.text_concat ⟨_, directory.parts ++ ["funcs"]⟩ (by simp) _
  have shorter : ¬ longestPath < (directory.child "funcs").text.utf8ByteSize := by
    rw [text, String.utf8ByteSize_append, String.utf8ByteSize_append, Nat.add_assoc] at short
    exact fun longer => short (Nat.lt_of_lt_of_le longer (Nat.le_add_right _ _))
  refine ⟨place ++ ["funcs"], ?_, ?_⟩
  · rw [locate_eq_walk, if_neg shorter, funcs]
    exact walked
  · rw [locate_eq_walk, if_neg short, path]
    show tree.walk (start base directory) (directory.parts ++ ["funcs"] ++ _) = _
    rw [walk_append, walked]
    rfl

include there named in
theorem entry_fragment_refused_iff :
    tree.entry base (fragmentPath directory dialect script) = .error .nameTooLong ↔
      tree.TooLong base directory dialect script := by
  unfold TooLong
  by_cases long : longestPath < (fragmentPath directory dialect script).text.utf8ByteSize
  · have refused : tree.locate base (fragmentPath directory dialect script) =
        .error .nameTooLong := by
      rw [locate_eq_walk, if_pos long]
    rw [entry_of_locate_error refused]
    exact iff_of_true rfl (Or.inl long)
  · obtain ⟨place, above, below⟩ := exists_locate_funcs there named long
    rw [entry_of_locate above]
    cases held : tree.get? place with
    | none =>
        rw [entry_of_locate_error (below.trans (walk_cons_missing held))]
        simp [long]
    | some entry =>
        by_cases isDirectory : entry = .directory
        · subst isDirectory
          rw [walk_cons_directory held] at below
          by_cases wide : longestName < (Fragments.fileName dialect.extension script).utf8ByteSize
          · rw [if_pos wide] at below
            rw [entry_of_locate_error below]
            exact iff_of_true rfl (Or.inr ⟨rfl, wide⟩)
          · rw [if_neg wide, walk] at below
            rw [entry_of_locate below]
            refine iff_of_false ?_ (not_or.2 ⟨long, fun both => wide both.2⟩)
            split
            · simp
            · simp
        · rw [entry_of_locate_error (below.trans (walk_cons_file held isDirectory))]
          simp [long, isDirectory]

include there named in
theorem hasNul_fragmentPath : (fragmentPath directory dialect script).hasNul = false := by
  have nul := (exists_place_of_isDirectory there).1
  have inFile : Text.hasChar (Fragments.fileName dialect.extension script) '\x00' = false := by
    simpa [Text.hasChar] using not_mem_fileName named dialect (c := '\x00') (by decide) (by decide)
  rw [fragmentPath_eq named]
  unfold Path.hasNul at nul ⊢
  rw [List.any_append, List.any_append, nul, List.any_cons, List.any_cons, inFile]
  decide

/-- What is to be run for a script, if there is a file with it. -/
def fragment? (tree : FileTree) (base directory : Path) (dialect : Dialect) (script : String) :
    Option String :=
  match tree.entry base (fragmentPath directory dialect script) with
  | .ok (.text content) => some content
  | _ => none

theorem fragment?_eq_some_iff {content : String} :
    tree.fragment? base directory dialect script = some content ↔
      tree.entry base (fragmentPath directory dialect script) = .ok (.text content) := by
  unfold fragment?
  split
  · next found => simp [found]
  · next other => exact iff_of_false (by simp) fun found => other _ found

include there named in
theorem readFragment_ends (decoded : ∀ bytes,
      tree.entry base (fragmentPath directory dialect script) ≠ .ok (.binary bytes)) :
    Ends (fun found => found = (tree.fragment? base directory dialect script).map (Prod.mk script) ∧
        ¬ tree.TooLong base directory dialect script)
      (fun error => tree.TooLong base directory dialect script ∧
        error = .breakdown
          (.refused (fragmentPath directory dialect script).text .nameTooLong))
      (tree.readFragment base directory dialect script) := by
  have nul : (fragmentPath directory dialect script).hasNul = false :=
    hasNul_fragmentPath there named
  have refused : _ ↔ tree.TooLong base directory dialect script :=
    entry_fragment_refused_iff there named
  simp only [readFragment, isFile, readThere, isThere, readText, look, fragment?, nul]
  cases found : tree.entry base (fragmentPath directory dialect script) with
  | ok entry =>
      have short : ¬ tree.TooLong base directory dialect script := by
        rw [← refused, found]
        simp
      cases entry with
      | directory => exact ⟨rfl, short⟩
      | text content => exact ⟨rfl, short⟩
      | binary bytes => exact absurd found (decoded bytes)
  | error problem =>
      rw [found] at refused
      cases problem with
      | nameTooLong => exact ⟨refused.1 rfl, rfl⟩
      | missing => exact ⟨rfl, mt refused.2 (by simp)⟩
      | alreadyExists => exact ⟨rfl, mt refused.2 (by simp)⟩
      | notDirectory => exact ⟨rfl, mt refused.2 (by simp)⟩
      | isDirectory => exact ⟨rfl, mt refused.2 (by simp)⟩

end Project

/-! ## Reading -/

theorem lookup_filterMap (texts : String → Option String) (names : List String) (name : String) :
    (names.filterMap fun other => (texts other).map (Prod.mk other)).lookup name =
      if name ∈ names then texts name else none := by
  induction names with
  | nil => rfl
  | cons other rest ih =>
      rw [List.filterMap_cons]
      by_cases same : name = other
      · subst same
        cases text : texts name with
        | none => simp [ih, text]
        | some content => simp
      · cases text : texts other with
        | none => simp [ih, same]
        | some content =>
            simp [List.lookup_cons, beq_false_of_ne same, ih, same]

theorem mem_scriptNames_iff {spec : Spec} (typed : spec.Typed) {script : String} :
    script ∈ scriptNames spec ↔ spec.Runs script := by
  unfold scriptNames
  rw [List.mem_eraseDups]
  simp only [List.mem_flatMap, List.mem_filterMap, Option.map_eq_some_iff]
  constructor
  · rintro ⟨menu, inMenus, command, inMenu, name, given, rfl⟩
    obtain ⟨text, rfl, _⟩ := ((typed.menus menu inMenus).commands command inMenu).script name given
    exact ⟨menu, inMenus, command, inMenu, given⟩
  · rintro ⟨menu, inMenus, command, inMenu, given⟩
    exact ⟨menu, inMenus, command, inMenu, _, given, rfl⟩

theorem typed_of_readSpec {tree : FileTree} {base directory : Path} {spec : Spec}
    (read : tree.readSpec base directory = .ok spec) : spec.Typed := by
  have described : ∀ path, Ends (fun document => Schema.description.violations document = [])
      (fun _ => True) (tree.readDescription base path) := by
    intro path
    refine Ends.bind (Ends.any _) fun above _ => ?_
    split
    · exact trivial
    · refine Ends.bind (Ends.any _) fun here _ => ?_
      split
      · exact trivial
      · refine Ends.bind (Ends.any _) fun document _ => ?_
        split
        · next accepted => exact Ends.ok accepted
        · exact trivial
  obtain ⟨document, found, made⟩ := exists_of_bind_eq_ok read
  have accepted := (described _).of_eq_ok found
  exact ((Spec.ofJson_ends (Schema.violations_eq_nil_iff.1 accepted)).of_eq_ok made).1

/-- The file of some script has a name that is too long. -/
def FragmentRefused (tree : FileTree) (base directory : Path) (spec : Spec) (dialect : Dialect)
    (error : Error) : Prop :=
  ∃ script ∈ scriptNames spec, tree.TooLong base directory dialect script ∧
    error = .breakdown (.refused (fragmentPath directory dialect script).text .nameTooLong)

/-- The fragments are the texts of the files that are there. -/
def Loaded (tree : FileTree) (base directory : Path) (spec : Spec) (dialect : Dialect)
    (fragments : Fragments) : Prop :=
  ∀ name, fragments.entries.lookup name =
    if name ∈ scriptNames spec then tree.fragment? base directory dialect name else none

section Loaded

variable {tree : FileTree} {base directory : Path} {spec : Spec} {dialect : Dialect}
  {fragments : Fragments} (loaded : tree.Loaded base directory spec dialect fragments)
include loaded

theorem Loaded.has_iff {script : String} :
    fragments.has script = true ↔ script ∈ scriptNames spec ∧
      ∃ content, tree.entry base (fragmentPath directory dialect script) = .ok (.text content) := by
  unfold Fragments.has
  rw [loaded]
  split
  · next listed =>
      simp only [Option.isSome_iff_exists, fragment?_eq_some_iff, listed, true_and]
  · next absent => simp [absent]

theorem Loaded.read_eq {script content : String} (listed : script ∈ scriptNames spec)
    (found : tree.entry base (fragmentPath directory dialect script) = .ok (.text content)) :
    fragments.read script = .ok content := by
  unfold Fragments.read
  rw [loaded, if_pos listed, fragment?_eq_some_iff.2 found]

end Loaded

section Context

variable {tree : FileTree} {base directory : Path} {spec : Spec}
  (there : tree.isDirectory base directory = .ok true) (typed : spec.Typed)
  (decoded : ∀ dialect, ∀ script ∈ scriptNames spec, ∀ bytes,
    tree.entry base (fragmentPath directory dialect script) ≠ .ok (.binary bytes))
include there typed decoded

theorem readFragments_ends (dialect : Dialect) :
    Ends (fun fragments => (∀ script ∈ scriptNames spec,
          ¬ tree.TooLong base directory dialect script) ∧
        tree.Loaded base directory spec dialect fragments)
      (tree.FragmentRefused base directory spec dialect)
      (tree.readFragments base directory spec dialect) := by
  have each : ∀ script ∈ scriptNames spec, Ends
      (fun found => found = (tree.fragment? base directory dialect script).map (Prod.mk script) ∧
        ¬ tree.TooLong base directory dialect script)
      (tree.FragmentRefused base directory spec dialect)
      (tree.readFragment base directory dialect script) := by
    intro script listed
    obtain ⟨menu, inMenus, command, inMenu, given⟩ := (mem_scriptNames_iff typed).1 listed
    obtain ⟨text, same, named⟩ :=
      ((typed.menus menu inMenus).commands command inMenu).script _ given
    cases same
    exact (readFragment_ends there named (decoded dialect script listed)).mono
      (fun _ found => found) fun error failed => ⟨script, listed, failed⟩
  have short := Ends.mapM_elements fun script listed =>
    (each script listed).mono (fun _ found => found.2) fun _ failed => failed
  have texts : Ends (fun found => found.map id = (scriptNames spec).map fun script =>
        (tree.fragment? base directory dialect script).map (Prod.mk script)) (fun _ => True)
      ((scriptNames spec).mapM (tree.readFragment base directory dialect)) :=
    Ends.mapM_view fun script listed =>
      (each script listed).mono (fun _ found => found.1) fun _ _ => trivial
  refine Ends.bind (short.and texts) fun found ⟨short, texts⟩ => Ends.ok ⟨short, fun name => ?_⟩
  rw [List.map_id] at texts
  rw [texts, List.filterMap_map]
  exact lookup_filterMap _ _ _

/-- A context has the fragments of both dialects. -/
theorem readContext_ends (read : tree.readSpec base directory = .ok spec) :
    Ends (fun context => context.spec = spec ∧ ∀ dialect,
        (∀ script ∈ scriptNames spec, ¬ tree.TooLong base directory dialect script) ∧
        tree.Loaded base directory spec dialect (context.fragments dialect))
      (fun error => ∃ dialect, tree.FragmentRefused base directory spec dialect error)
      (tree.readContext base directory) := by
  have steps : tree.readContext base directory =
      tree.readFragments base directory spec .bash >>= fun bash =>
        tree.readFragments base directory spec .batch >>= fun batch =>
          .ok { spec, bash, batch } := by
    unfold readContext
    rw [there, read]
    rfl
  have ends := readFragments_ends there typed decoded
  rw [steps]
  refine Ends.bind ((ends .bash).mono (fun _ found => found) fun _ failed => ⟨.bash, failed⟩)
    fun bash inBash => ?_
  refine Ends.bind ((ends .batch).mono (fun _ found => found) fun _ failed => ⟨.batch, failed⟩)
    fun batch inBatch => ?_
  refine Ends.ok ⟨rfl, fun dialect => ?_⟩
  cases dialect with
  | bash => exact inBash
  | batch => exact inBatch

end Context

/-! ## Plans -/

theorem Loaded.body_iff {tree : FileTree} {base directory : Path} {spec : Spec} {dialect : Dialect}
    {fragments : Fragments} (loaded : tree.Loaded base directory spec dialect fragments)
    (typed : spec.Typed) {plan : MenuPlan} (inPlans : plan ∈ spec.plans dialect fragments)
    {planned : PlannedCommand} (present : planned ∈ plan.commands)
    (declared : planned.command.builtin = none) (script : String) :
    planned.body = .fragment script ↔ planned.command.script = some (.str script) ∧
      ∃ content, tree.entry base (fragmentPath directory dialect script) = .ok (.text content) := by
  obtain ⟨menu, inMenus, rfl⟩ := List.mem_map.1 inPlans
  obtain ⟨inTable, body⟩ := MenuPlan.mem_commands present
  have inMenu : planned.command ∈ menu.commands :=
    (Table.mem_ofMenu inTable).resolve_right fun builtin =>
      (Table.plain_of_mem_builtins builtin).1 declared
  rw [body, Command.resolve_eq_fragment_iff declared, loaded.has_iff, mem_scriptNames_iff typed]
  constructor
  · rintro ⟨given, _, there⟩
    exact ⟨given, there⟩
  · rintro ⟨given, there⟩
    exact ⟨given, ⟨menu, inMenus, planned.command, inMenu, given⟩, there⟩

/-- Fragments go by the files that are there, and those that are missing do no harm. What does is a
name that is too long for a file. -/
theorem fragments_resolved_by_files (tree : FileTree) (base directory : Path) (spec : Spec)
    (there : tree.isDirectory base directory = .ok true)
    (read : tree.readSpec base directory = .ok spec)
    (decoded : ∀ dialect script, spec.Runs script → ∀ bytes,
      tree.entry base (fragmentPath directory dialect script) ≠ .ok (.binary bytes)) :
    ((∃ context, tree.readContext base directory = .ok context) ↔
      ∀ dialect script, spec.Runs script → ¬ tree.TooLong base directory dialect script) ∧
    (∀ error, tree.readContext base directory = .error error →
      ∃ dialect script, spec.Runs script ∧ tree.TooLong base directory dialect script ∧
        error = .breakdown
          (.refused (fragmentPath directory dialect script).text .nameTooLong)) ∧
    ∀ context, tree.readContext base directory = .ok context →
      context.spec = spec ∧ ∀ dialect,
        (∀ script, (context.fragments dialect).has script = true ↔ spec.Runs script ∧
          ∃ content, tree.entry base (fragmentPath directory dialect script) =
            .ok (.text content)) ∧
        (∀ script content, spec.Runs script →
          tree.entry base (fragmentPath directory dialect script) = .ok (.text content) →
          (context.fragments dialect).read script = .ok content) ∧
        ∀ plan ∈ spec.plans dialect (context.fragments dialect), ∀ planned ∈ plan.commands,
          planned.command.builtin = none →
          (∀ script, planned.body = .fragment script ↔
            planned.command.script = some (.str script) ∧
              ∃ content, tree.entry base (fragmentPath directory dialect script) =
                .ok (.text content)) ∧
          ((∀ script, planned.body ≠ .fragment script) →
            planned.body =
              match planned.command.inline dialect with
              | some body => .inline body
              | none => .unsupported) := by
  have typed := typed_of_readSpec read
  have listed_iff : ∀ script, script ∈ scriptNames spec ↔ spec.Runs script :=
    fun script => mem_scriptNames_iff typed
  have ends := readContext_ends there typed
    (fun dialect script listed => decoded dialect script ((listed_iff script).1 listed)) read
  refine ⟨⟨?_, fun short => ?_⟩, fun error failed => ?_, fun context done => ?_⟩
  · rintro ⟨context, done⟩ dialect script runs
    exact ((ends.of_eq_ok done).2 dialect).1 script ((listed_iff script).2 runs)
  · cases done : tree.readContext base directory with
    | ok context => exact ⟨context, rfl⟩
    | error error =>
        rw [done] at ends
        obtain ⟨dialect, script, listed, long, _⟩ := ends
        exact absurd long (short dialect script ((listed_iff script).1 listed))
  · rw [failed] at ends
    obtain ⟨dialect, script, listed, long, told⟩ := ends
    exact ⟨dialect, script, (listed_iff script).1 listed, long, told⟩
  · obtain ⟨same, reads⟩ := ends.of_eq_ok done
    refine ⟨same, fun dialect => ?_⟩
    have loaded := (reads dialect).2
    refine ⟨fun script => by rw [loaded.has_iff, listed_iff], fun script content runs found => ?_,
      fun plan inPlans planned present declared => ⟨?_, fun apart => ?_⟩⟩
    · exact loaded.read_eq ((listed_iff script).2 runs) found
    · exact loaded.body_iff typed inPlans present declared
    · obtain ⟨menu, _, rfl⟩ := List.mem_map.1 inPlans
      rw [(MenuPlan.mem_commands present).2] at apart ⊢
      exact Command.resolve_eq_inline declared apart

/-- With its extension the name has one byte more than that of a file can have. -/
def longScript : String := String.ofList (List.replicate 253 's')

def longCommand : Command where
  name := "go"
  description := "Go."
  script := some (.str longScript)

def longSpec : Spec :=
  demoSpec [longCommand] []

def longDocument : Json :=
  .obj [("mainMenu", .str "main"),
    ("menus", .obj [("main", .obj [("commands", .obj [("go", .obj [
      ("description", .str "Go."), ("script", .str longScript)])])])]),
    ("title", .str "Demo"), ("uri", .str "demo.dev")]

/-- A project with a description and an empty directory for fragments. -/
def emptyProject (document : Json) : FileTree where
  entries := [(["cli.json"], .text document.fileText), (["funcs"], .directory)]

theorem readSpec_emptyProject {document : Json} {spec : Spec}
    (storable : document.everywhere Json.isStorable = true) (sorted : document.sorted = document)
    (accepted : Schema.description.violations document = [])
    (read : Spec.ofJson document "cli.json" = .ok spec) :
    (emptyProject document).readSpec ⟨true, []⟩ ⟨false, []⟩ = .ok spec := by
  have text : (emptyProject document).readText ⟨true, []⟩ ⟨false, ["cli.json"]⟩
      (.unreadableJson "cli.json") = .ok document.fileText := rfl
  have found : (emptyProject document).readJson ⟨true, []⟩ ⟨false, ["cli.json"]⟩ =
      .ok document := by
    unfold readJson
    rw [show (Path.text ⟨false, ["cli.json"]⟩) = "cli.json" from rfl, text]
    simp only [bind, Except.bind, Json.read_fileText storable, sorted]
    rfl
  have described : (emptyProject document).readDescription ⟨true, []⟩ ⟨false, ["cli.json"]⟩ =
      .ok document := by
    have above : (emptyProject document).isThere ⟨true, []⟩ (Path.parent ⟨false, ["cli.json"]⟩) =
        .ok true := rfl
    have here : (emptyProject document).isThere ⟨true, []⟩ ⟨false, ["cli.json"]⟩ = .ok true := rfl
    unfold readDescription
    rw [above, here, found]
    simp only [bind, Except.bind, accepted]
    rfl
  unfold readSpec
  show ((emptyProject document).readDescription ⟨true, []⟩ ⟨false, ["cli.json"]⟩ >>= _) = _
  rw [described]
  exact read

theorem tooLong_longScript (dialect : Dialect) :
    (emptyProject longDocument).TooLong ⟨true, []⟩ ⟨false, []⟩ dialect longScript := by
  refine Or.inr ⟨rfl, ?_⟩
  cases dialect with
  | bash => decide +kernel
  | batch => decide +kernel

theorem longScript_keeps_context_unread :
    (emptyProject longDocument).isDirectory ⟨true, []⟩ ⟨false, []⟩ = .ok true ∧
    (emptyProject longDocument).readSpec ⟨true, []⟩ ⟨false, []⟩ = .ok longSpec ∧
    longSpec.Runs longScript ∧
    ¬ ∃ context, (emptyProject longDocument).readContext ⟨true, []⟩ ⟨false, []⟩ = .ok context := by
  have there : (emptyProject longDocument).isDirectory ⟨true, []⟩ ⟨false, []⟩ = .ok true := rfl
  have read : (emptyProject longDocument).readSpec ⟨true, []⟩ ⟨false, []⟩ = .ok longSpec :=
    readSpec_emptyProject rfl rfl (by decide +kernel) rfl
  have runs : longSpec.Runs longScript :=
    ⟨_, List.mem_cons_self, longCommand, List.mem_cons_self, rfl⟩
  have only : ∀ script, longSpec.Runs script → script = longScript := by
    rintro script ⟨menu, inMenus, command, inMenu, given⟩
    cases List.mem_singleton.1 inMenus
    cases List.mem_singleton.1 inMenu
    exact (Json.str.inj (Option.some.inj given)).symm
  have named : Pattern.fileStem.accepts longScript = true := by decide +kernel
  refine ⟨there, read, runs, fun done => ?_⟩
  refine (fragments_resolved_by_files _ _ _ longSpec there read ?_).1.1 done .bash longScript runs
    (tooLong_longScript .bash)
  intro dialect script inSpec bytes
  rw [only script inSpec, (entry_fragment_refused_iff there named).2 (tooLong_longScript dialect)]
  simp

end FileTree

end ShellMenu
