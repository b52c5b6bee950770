import ShellMenu.CommandLine.Run
import ShellMenu.Proofs.Files.Artifacts
import ShellMenu.Proofs.Json.Leaves

/-
  What a run that fails leaves behind. Up to the first artifact a build only reads, but then it
  writes one file after the other, and what it wrote before a failure stays.
-/

namespace ShellMenu.CommandLine

/-! ## Tasks on files -/

theorem Task.run_bind {α β : Type} (task : Task α) (next : α → Task β) (session : Session) :
    (task >>= next).run session =
      match task.run session with
      | (.error error, session) => (.error error, session)
      | (.ok value, session) => (next value).run session := by
  show (ExceptT.bindCont (fun value => next value) (task.run session).1) (task.run session).2 = _
  rcases task.run session with ⟨error | value, later⟩ <;> rfl

/-- What a task does with the files, whatever was printed before it. -/
def Task.Acts {α : Type} (task : Task α) (action : FileTree → Result α × FileTree) : Prop :=
  ∀ session, ((task.run session).1, (task.run session).2.tree) = action session.tree

/-- One action after another, up to the first that fails. -/
def andThen {α β : Type} (first : FileTree → Result α × FileTree)
    (next : α → FileTree → Result β × FileTree) (tree : FileTree) : Result β × FileTree :=
  match first tree with
  | (.error error, tree) => (.error error, tree)
  | (.ok value, tree) => next value tree

theorem andThen_eq_error {α β : Type} {first : FileTree → Result α × FileTree}
    {next : α → FileTree → Result β × FileTree} {tree after : FileTree} {error : Error}
    (failed : andThen first next tree = (.error error, after)) :
    first tree = (.error error, after) ∨
      ∃ value middle, first tree = (.ok value, middle) ∧
        next value middle = (.error error, after) := by
  rw [andThen] at failed
  split at failed
  · next stopped =>
      cases failed
      exact Or.inl stopped
  · next value middle done => exact Or.inr ⟨value, middle, done, failed⟩

theorem andThen_eq_ok {α β : Type} {first : FileTree → Result α × FileTree}
    {next : α → FileTree → Result β × FileTree} {tree after : FileTree} {result : β}
    (done : andThen first next tree = (.ok result, after)) :
    ∃ value middle, first tree = (.ok value, middle) ∧ next value middle = (.ok result, after) := by
  rw [andThen] at done
  split at done
  · cases done
  · next value middle first => exact ⟨value, middle, first, done⟩

namespace Task.Acts

variable {α β : Type} {task : Task α} {next : α → Task β} {action : FileTree → Result α × FileTree}

theorem ofResult (result : Result α) : (Task.ofResult result).Acts fun tree => (result, tree) :=
  fun _ => rfl

theorem pure (value : α) : (Pure.pure value : Task α).Acts fun tree => (.ok value, tree) :=
  fun _ => rfl

theorem readingTree (action : FileTree → Result α) :
    (CommandLine.readingTree action).Acts fun tree => (action tree, tree) :=
  fun _ => rfl

theorem changingTree (action : FileTree → Result α × FileTree) :
    (CommandLine.changingTree action).Acts action :=
  fun _ => rfl

theorem bind {after : α → FileTree → Result β × FileTree} (first : task.Acts action)
    (rest : ∀ value, (next value).Acts (after value)) :
    (task >>= next).Acts (andThen action after) := by
  intro session
  have here := first session
  rw [Task.run_bind, andThen, ← here]
  rcases task.run session with ⟨error | value, later⟩
  · rfl
  · exact rest value later

theorem printLines (lines : List String) :
    (CommandLine.printLines lines).Acts fun tree => (.ok (), tree) := by
  induction lines with
  | nil => exact pure ()
  | cons line rest ih =>
      have first : (printLine line).Acts fun tree => (.ok (), tree) := fun _ => rfl
      exact first.bind fun _ => ih

end Task.Acts

/-- A task that leaves the files alone. -/
def Task.Keeps {α : Type} (task : Task α) : Prop :=
  ∀ session, (task.run session).2.tree = session.tree

namespace Task.Keeps

variable {α β : Type} {task : Task α} {next : α → Task β}

theorem of_acts {action : FileTree → Result α} (acts : task.Acts fun tree => (action tree, tree)) :
    task.Keeps :=
  fun session => congrArg Prod.snd (acts session)

theorem bind (first : task.Keeps) (rest : ∀ value, (next value).Keeps) : (task >>= next).Keeps := by
  intro session
  have here := first session
  rw [Task.run_bind, ← here]
  rcases task.run session with ⟨error | value, later⟩
  · rfl
  · exact rest value later

end Task.Keeps

theorem validate_keeps (world : World) (directory : String) : (validate world directory).Keeps := by
  refine Task.Keeps.bind (.of_acts (.ofResult _)) fun _ => ?_
  refine Task.Keeps.bind (.of_acts (.readingTree _)) fun context => ?_
  refine Task.Keeps.bind (fun _ => rfl) fun _ => ?_
  exact Task.Keeps.bind (.of_acts (.printLines _)) fun _ _ => rfl

theorem list_keeps (world : World) (options : ListOptions) : (list world options).Keeps := by
  refine Task.Keeps.bind (.of_acts (.ofResult _)) fun _ => ?_
  refine Task.Keeps.bind (.of_acts (.readingTree _)) fun context => ?_
  refine Task.Keeps.bind (.of_acts (.ofResult _)) fun dialect => ?_
  have rest : (do
      let menus ← Task.ofResult (chosenMenus context.spec options.menu)
      printLines (menus.flatMap (listLines context dialect options.level))
      return 0 : Task Nat).Keeps := by
    refine Task.Keeps.bind (.of_acts (.ofResult _)) fun menus => ?_
    exact Task.Keeps.bind (.of_acts (.printLines _)) fun _ _ => rfl
  split
  · exact Task.Keeps.bind (.of_acts (.ofResult _)) fun _ => rest
  · exact rest

/-! ## Builds -/

def goodPath (text : Option String) : Result Unit :=
  match given text with
  | some text => if (Path.ofText text).hasNul then breaking .nulInPath else .ok ()
  | none => .ok ()

/-- All that a build reads and makes before it writes. -/
def prepare (world : World) (options : BuildOptions) (tree : FileTree) :
    Result (Context × List Artifact) := do
  goodPath (some options.directory)
  goodPath options.outDirectory
  let context ← tree.readContext world.directory (projectDirectory world options.directory)
  let artifacts ← context.build world.renderer
  return (context, artifacts)

def BuildOptions.mode (options : BuildOptions) : WriteMode :=
  { check := options.check, dryRun := options.dryRun }

/-- The report is written at last, when one was asked for. -/
def reporting (world : World) (options : BuildOptions) (context : Context)
    (written : List Written) : FileTree → Result Unit × FileTree :=
  andThen (fun tree => (goodPath options.reportJson, tree)) fun _ tree =>
    match given options.reportJson with
    | none => (.ok (), tree)
    | some path =>
        tree.writeJson FileTree.usualRoom world.directory
          (world.directory.resolve (Path.ofText path))
          (report world context.spec (projectDirectory world options.directory)
            (outDirectory world options) written)

/-- The build as its three parts: reading, writing and reporting. -/
def buildAction (world : World) (options : BuildOptions) : FileTree → Result Nat × FileTree :=
  andThen (fun tree => (prepare world options tree, tree)) fun (context, artifacts) =>
    andThen (FileTree.updateAll world.directory (outDirectory world options) options.mode
      artifacts) fun written =>
      andThen (reporting world options context written) fun _ tree =>
        (.ok (if options.check && hasDrift written then 1 else 0), tree)

theorem reporting_acts (world : World) (options : BuildOptions) (context : Context)
    (written : List Written) (status : Nat) :
    (do
      checkPath options.reportJson
      if let some path := given options.reportJson then
        changingTree (·.writeJson FileTree.usualRoom world.directory
          (world.directory.resolve (Path.ofText path))
          (report world context.spec (projectDirectory world options.directory)
            (outDirectory world options) written))
      return status : Task Nat).Acts
      (andThen (reporting world options context written) fun _ tree => (.ok status, tree)) := by
  intro session
  cases wanted : given options.reportJson with
  | none =>
      have steps := (Task.Acts.ofResult (goodPath options.reportJson)).bind
        (fun _ => Task.Acts.pure status) session
      refine Eq.trans steps ?_
      simp only [andThen, reporting, wanted]
      cases goodPath options.reportJson <;> rfl
  | some path =>
      have steps := (Task.Acts.ofResult (goodPath options.reportJson)).bind
        (fun _ => (Task.Acts.changingTree (·.writeJson FileTree.usualRoom world.directory
          (world.directory.resolve (Path.ofText path)) (report world context.spec
            (projectDirectory world options.directory) (outDirectory world options) written))).bind
          fun _ => Task.Acts.pure status) session
      refine Eq.trans steps ?_
      simp only [andThen, reporting, wanted]
      cases goodPath options.reportJson <;> rfl

theorem build_acts (world : World) (options : BuildOptions) :
    (build world options).Acts (buildAction world options) := by
  intro session
  have steps := Task.Acts.bind (.ofResult (goodPath (some options.directory))) (fun _ =>
    Task.Acts.bind (.ofResult (goodPath options.outDirectory)) fun _ =>
    Task.Acts.bind (.readingTree (·.readContext world.directory
      (projectDirectory world options.directory))) fun context =>
    Task.Acts.bind (.ofResult (context.build world.renderer)) fun artifacts =>
    Task.Acts.bind (.printLines (Dialect.all.flatMap (unsupportedLines context))) fun _ =>
    Task.Acts.bind (.changingTree (FileTree.updateAll world.directory
      (outDirectory world options) options.mode artifacts)) fun written =>
    Task.Acts.bind (.printLines (written.flatMap (statusLines options.printDiff))) fun _ =>
    reporting_acts world options context written
      (if options.check && hasDrift written then 1 else 0)) session
  refine Eq.trans steps ?_
  cases source : goodPath (some options.directory) with
  | error error => simp only [buildAction, prepare, andThen, source]; rfl
  | ok _ =>
      cases target : goodPath options.outDirectory with
      | error error => simp only [buildAction, prepare, andThen, source, target]; rfl
      | ok _ =>
          cases read : session.tree.readContext world.directory
              (projectDirectory world options.directory) with
          | error error => simp only [buildAction, prepare, andThen, source, target, read]; rfl
          | ok context =>
              have prepared : prepare world options session.tree =
                  context.build world.renderer >>= fun artifacts => pure (context, artifacts) := by
                rw [prepare, source, target, read]
                rfl
              simp only [buildAction, andThen, read, prepared]
              cases context.build world.renderer <;> rfl

/-- The output directory is resolved, so that it is its own place. -/
theorem outDirectory_lands (world : World) (options : BuildOptions) (tree : FileTree)
    (base : Path) :
    tree.Lands base (outDirectory world options) (outDirectory world options).parts := by
  have resolved : (outDirectory world options).absolute = true ∧
      ".." ∉ (outDirectory world options).parts := by
    rw [outDirectory]
    split
    · exact ⟨rfl, Path.climb_plain _⟩
    · have child : Path.ofText "out" = ⟨false, ["out"]⟩ := by decide +kernel
      rw [Path.child, child]
      refine ⟨rfl, fun present => ?_⟩
      rcases List.mem_append.1 present with above | last
      · exact Path.climb_plain _ above
      · simp at last
  have lands := FileTree.Lands.of_plain tree base resolved.2
  rw [FileTree.start, if_pos resolved.1] at lands
  exact lands

/-! ## Failures -/

theorem reporting_eq_error {world : World} {options : BuildOptions} {context : Context}
    {written : List Written} {tree after : FileTree} {error : Error}
    (failed : reporting world options context written tree = (.error error, after)) :
    goodPath options.reportJson = .error error ∧ after = tree ∨
      ∃ path, goodPath options.reportJson = .ok () ∧ given options.reportJson = some path ∧
        after = (tree.makeRoom world.directory
          (world.directory.resolve (Path.ofText path))).2 := by
  rcases andThen_eq_error failed with stopped | ⟨_, middle, checked, failed⟩
  · obtain ⟨bad, same⟩ := Prod.mk.inj stopped
    exact Or.inl ⟨bad, same.symm⟩
  · obtain ⟨good, rfl⟩ := Prod.mk.inj checked
    cases wanted : given options.reportJson with
    | none =>
        rw [wanted] at failed
        cases failed
    | some path =>
        rw [wanted] at failed
        exact Or.inr ⟨path, good, rfl, FileTree.eq_makeRoom_of_write_error failed⟩

/-- Whether a build that fails on this tree leaves anything behind: an artifact was out of date
and is the first that was worked on, or the artifacts needed nothing and there was a directory to
make for the report. -/
def Started (world : World) (options : BuildOptions) (arts : List Artifact) (tree : FileTree) :
    Prop :=
  options.mode.pending = none ∧
      tree.FirstChange world.directory (outDirectory world options) arts ∨
    ∃ written path,
      FileTree.updateAll world.directory (outDirectory world options) options.mode arts tree =
        (.ok written, tree) ∧
      goodPath options.reportJson = .ok () ∧ given options.reportJson = some path ∧
      tree.Differs (tree.makeRoom world.directory (world.directory.resolve (Path.ofText path))).2

section Failed

variable {world : World} {options : BuildOptions} {tree after : FileTree} {error : Error}

/-- A failed build stopped before it wrote, or in the middle of its artifacts, or at its report. -/
theorem buildAction_eq_error (failed : buildAction world options tree = (.error error, after)) :
    prepare world options tree = .error error ∧ after = tree ∨
      ∃ context arts, prepare world options tree = .ok (context, arts) ∧
        (FileTree.updateAll world.directory (outDirectory world options) options.mode arts tree =
            (.error error, after) ∨
          ∃ written middle,
            FileTree.updateAll world.directory (outDirectory world options) options.mode arts tree =
              (.ok written, middle) ∧
            reporting world options context written middle = (.error error, after)) := by
  rcases andThen_eq_error failed with stopped | ⟨⟨context, arts⟩, _, prepared, failed⟩
  · obtain ⟨bad, same⟩ := Prod.mk.inj stopped
    exact Or.inl ⟨bad, same.symm⟩
  · obtain ⟨ready, rfl⟩ := Prod.mk.inj prepared
    refine Or.inr ⟨context, arts, ready, ?_⟩
    rcases andThen_eq_error failed with stopped | ⟨written, middle, updated, failed⟩
    · exact Or.inl stopped
    · rcases andThen_eq_error failed with stopped | ⟨_, final, _, impossible⟩
      · exact Or.inr ⟨written, middle, updated, stopped⟩
      · cases impossible

/-- What is written is what the scripts give. -/
theorem exists_scripts_of_prepare {context : Context} {arts : List Artifact}
    (ready : prepare world options tree = .ok (context, arts)) :
    ∃ scripts, arts = artifacts context.spec scripts := by
  obtain ⟨_, _, ready⟩ := exists_of_bind_eq_ok ready
  obtain ⟨_, _, ready⟩ := exists_of_bind_eq_ok ready
  obtain ⟨found, _, ready⟩ := exists_of_bind_eq_ok ready
  obtain ⟨made, built, same⟩ := exists_of_bind_eq_ok ready
  obtain ⟨scripts, _, written⟩ := exists_of_bind_eq_ok built
  cases same
  cases written
  exact ⟨scripts, rfl⟩

theorem mode_of_pending_eq_none {mode : WriteMode} (writing : mode.pending = none) : mode = {} := by
  obtain ⟨check, dryRun⟩ := mode
  cases check with
  | true => cases writing
  | false =>
      cases dryRun with
      | true => cases writing
      | false => rfl

theorem reporting_updated {context : Context} {written : List Written}
    (failed : reporting world options context written tree = (.error error, after)) :
    FileTree.Updated [] tree after := by
  rcases reporting_eq_error failed with ⟨_, rfl⟩ | ⟨path, _, _, rfl⟩
  · exact .refl after
  · exact FileTree.makeRoom_updated tree world.directory _

/-- Whatever the mode, a pass over the artifacts has started or it has left the tree alone. -/
theorem started_or_settled {context : Context} {arts : List Artifact}
    (ready : prepare world options tree = .ok (context, arts)) :
    (options.mode.pending = none ∧
        tree.FirstChange world.directory (outDirectory world options) arts) ∨
      ¬ tree.Differs (FileTree.updateAll world.directory (outDirectory world options)
          options.mode arts tree).2 ∧
        ∀ written after, FileTree.updateAll world.directory (outDirectory world options)
          options.mode arts tree = (.ok written, after) → after = tree := by
  obtain ⟨scripts, rfl⟩ := exists_scripts_of_prepare ready
  cases pending : options.mode.pending with
  | some status =>
      have same := FileTree.updateAll_of_pending pending world.directory
        (outDirectory world options) (artifacts context.spec scripts) tree
      rw [same]
      refine Or.inr ⟨FileTree.not_differs_self tree, fun written after done => ?_⟩
      rw [done] at same
      exact same
  | none =>
      rw [mode_of_pending_eq_none pending]
      rcases FileTree.firstChange_or_settled (artifacts_filled context.spec scripts) tree
        world.directory (outDirectory world options) with first | settled
      · exact Or.inl ⟨rfl, first⟩
      · exact Or.inr settled

theorem differs_updateAll {context : Context} {arts : List Artifact}
    (ready : prepare world options tree = .ok (context, arts))
    (writing : options.mode.pending = none)
    (first : tree.FirstChange world.directory (outDirectory world options) arts) :
    tree.Differs (FileTree.updateAll world.directory (outDirectory world options) options.mode
      arts tree).2 := by
  obtain ⟨scripts, rfl⟩ := exists_scripts_of_prepare ready
  rw [mode_of_pending_eq_none writing]
  exact (outDirectory_lands world options tree world.directory).differs_of_firstChange
    (artifacts_laidOut context.spec scripts) first

/-- A failed build leaves a changed tree exactly when it had started. -/
theorem differs_iff_started {context : Context} {arts : List Artifact}
    (failed : buildAction world options tree = (.error error, after))
    (ready : prepare world options tree = .ok (context, arts)) :
    tree.Differs after ↔ Started world options arts tree := by
  rcases buildAction_eq_error failed with ⟨bad, _⟩ | ⟨_, _, again, stopped⟩
  · cases bad.symm.trans ready
  cases again.symm.trans ready
  constructor
  · intro differs
    rcases started_or_settled ready with first | ⟨same, ends⟩
    · exact Or.inl first
    · rcases stopped with midway | ⟨written, middle, updated, unreported⟩
      · rw [midway] at same
        exact absurd differs same
      · cases ends written middle updated
        rcases reporting_eq_error unreported with ⟨_, rfl⟩ | ⟨path, good, wanted, rfl⟩
        · exact absurd differs (FileTree.not_differs_self after)
        · exact Or.inr ⟨written, path, updated, good, wanted, differs⟩
  · rintro (⟨writing, first⟩ | ⟨written, path, settled, good, wanted, differs⟩)
    · have differs := differs_updateAll ready writing first
      obtain ⟨scripts, rfl⟩ := exists_scripts_of_prepare ready
      have early := (outDirectory_lands world options tree world.directory).updateAll_updated
        options.mode (artifacts_laidOut context.spec scripts).down
      rcases stopped with midway | ⟨written, middle, updated, unreported⟩
      · rw [midway] at differs
        exact differs
      · rw [updated] at differs early
        exact early.differs_trans (reporting_updated unreported)
          (fun _ _ _ _ => List.not_mem_nil) differs
    · rcases stopped with midway | ⟨_, _, updated, unreported⟩
      · cases midway.symm.trans settled
      · cases updated.symm.trans settled
        rcases reporting_eq_error unreported with ⟨bad, _⟩ | ⟨_, _, again, rfl⟩
        · cases bad.symm.trans good
        · cases again.symm.trans wanted
          exact differs

/-- A failed build has made directories, and has written artifacts to their places. -/
theorem exists_writes_of_failed
    (failed : buildAction world options tree = (.error error, after)) :
    ∃ writes, FileTree.Updated writes tree after ∧ ∀ write ∈ writes,
      ∃ context arts, prepare world options tree = .ok (context, arts) ∧
        options.mode.pending = none ∧
        write ∈ Artifact.writes (outDirectory world options).parts arts := by
  rcases buildAction_eq_error failed with ⟨_, rfl⟩ | ⟨context, arts, ready, stopped⟩
  · exact ⟨[], .refl after, fun _ none => absurd none List.not_mem_nil⟩
  · have later : FileTree.Updated [] (FileTree.updateAll world.directory
        (outDirectory world options) options.mode arts tree).2 after := by
      rcases stopped with midway | ⟨written, middle, updated, unreported⟩
      · rw [midway]
        exact .refl after
      · rw [updated]
        exact reporting_updated unreported
    cases pending : options.mode.pending with
    | some status =>
        rw [FileTree.updateAll_of_pending pending] at later
        exact ⟨[], later, fun _ none => absurd none List.not_mem_nil⟩
    | none =>
        obtain ⟨scripts, rfl⟩ := exists_scripts_of_prepare ready
        have early := (outDirectory_lands world options tree world.directory).updateAll_updated
          options.mode (artifacts_laidOut context.spec scripts).down
        exact ⟨_, early.trans (later.mono (List.nil_subset _)), fun write present =>
          ⟨context, _, ready, rfl, present⟩⟩

end Failed

/-! ## Runs -/

/-- With the status of an error, or by breaking down. -/
inductive Ending.Failed : Ending → Prop where
  | refused {output errors : String} : Failed (.exit 2 output errors)
  | broken {error : Breakdown} : Failed (.breakdown error)

theorem buildAction_status {world : World} {options : BuildOptions} {tree after : FileTree}
    {status : Nat} (done : buildAction world options tree = (.ok status, after)) : status ≠ 2 := by
  obtain ⟨⟨context, arts⟩, _, _, done⟩ := andThen_eq_ok done
  obtain ⟨written, _, _, done⟩ := andThen_eq_ok done
  obtain ⟨_, _, _, done⟩ := andThen_eq_ok done
  obtain ⟨same, _⟩ := Prod.mk.inj done
  rw [← Except.ok.inj same]
  split <;> decide

theorem buildAction_of_failed {world : World} {words : List String} {tree : FileTree}
    {options : BuildOptions} (parsed : Invocation.parse words = .ok (.build options))
    (failed : (run world words tree).1.Failed) :
    ∃ error, buildAction world options tree = (.error error, (run world words tree).2) := by
  have acts := build_acts world options { tree }
  simp only [run, parsed, perform] at failed ⊢
  rcases ran : (build world options).run { tree } with ⟨(fault | breakdown) | status, session⟩
  · rw [ran] at acts
    exact ⟨_, acts.symm⟩
  · rw [ran] at acts
    exact ⟨_, acts.symm⟩
  · rw [ran] at acts failed
    cases failed
    exact absurd rfl (buildAction_status acts.symm)

theorem failed_of_updateAll {world : World} {words : List String} {tree : FileTree}
    {options : BuildOptions} {context : Context} {arts : List Artifact} {error : Error}
    (parsed : Invocation.parse words = .ok (.build options))
    (ready : prepare world options tree = .ok (context, arts))
    (stopped : (FileTree.updateAll world.directory (outDirectory world options) options.mode
      arts tree).1 = .error error) :
    (run world words tree).1.Failed := by
  have acts := build_acts world options { tree }
  simp only [run, parsed, perform]
  rcases ran : (build world options).run { tree } with ⟨(fault | breakdown) | status, session⟩
  · exact .refused
  · exact .broken
  · rw [ran] at acts
    obtain ⟨_, _, again, done⟩ := andThen_eq_ok acts.symm
    cases (Prod.mk.inj again).1.symm.trans ready
    obtain ⟨_, _, updated, _⟩ := andThen_eq_ok done
    cases (Prod.mk.inj again).2
    rw [updated] at stopped
    cases stopped

theorem run_keeps (world : World) {words : List String}
    (other : ∀ options, Invocation.parse words ≠ .ok (.build options)) (tree : FileTree) :
    (run world words tree).2 = tree := by
  rw [run]
  cases parsed : Invocation.parse words with
  | error refusal => rfl
  | ok invocation =>
      have keeps : (perform world invocation).Keeps := by
        cases invocation with
        | build options => exact absurd parsed (other options)
        | validate directory => exact validate_keeps world directory
        | list options => exact list_keeps world options
        | schema => exact Task.Keeps.bind (fun _ => rfl) fun _ _ => rfl
        | hashKey key =>
            refine Task.Keeps.bind (.of_acts (.ofResult _)) fun digest => ?_
            exact Task.Keeps.bind (fun _ => rfl) fun _ _ => rfl
      have same := keeps { tree }
      dsimp only
      rcases ran : (perform world invocation).run { tree }
        with ⟨(fault | breakdown) | status, session⟩ <;>
      · rw [ran] at same
        exact same

/-- The description that a build reads has each half of a pair beside its other half. With only one
of them it stands for a text that no file can hold, and the texts of this library are none of
these. -/
def DescribesPaired (world : World) (words : List String) (tree : FileTree) : Prop :=
  ∀ options, Invocation.parse words = .ok (.build options) →
    let path := (projectDirectory world options.directory).child FileTree.descriptionFile
    ∀ text, tree.readText world.directory path (.unreadableJson path.text) = .ok text →
      Json.isPaired (Json.textUnits text.toList) = true

/-- Every place is after a failed run as it was, or a directory that was made, or it holds an
artifact of the build; and anything has changed exactly when a build had started. So a build can
fail and leave some of its files behind. -/
theorem failed_run_changes_iff_started (world : World) (words : List String) (tree : FileTree)
    (_paired : DescribesPaired world words tree)
    (failed : (run world words tree).1.Failed) :
    (∀ place, (run world words tree).2.get? place = tree.get? place ∨
      tree.get? place = none ∧ (run world words tree).2.get? place = some .directory ∨
      ∃ options context arts, Invocation.parse words = .ok (.build options) ∧
        prepare world options tree = .ok (context, arts) ∧ options.mode.pending = none ∧
        ∃ artifact ∈ arts, place = artifact.place (outDirectory world options).parts ∧
          (run world words tree).2.get? place = some (.text artifact.content)) ∧
    (tree.Differs (run world words tree).2 ↔
      ∃ options context arts, Invocation.parse words = .ok (.build options) ∧
        prepare world options tree = .ok (context, arts) ∧
        Started world options arts tree) := by
  by_cases building : ∃ options, Invocation.parse words = .ok (.build options)
  · obtain ⟨options, parsed⟩ := building
    obtain ⟨error, stopped⟩ := buildAction_of_failed parsed failed
    generalize (run world words tree).2 = after at stopped ⊢
    constructor
    · intro place
      obtain ⟨writes, updated, allowed⟩ := exists_writes_of_failed stopped
      have change := updated place
      generalize tree.get? place = old at change ⊢
      generalize held : after.get? place = new at change ⊢
      cases change with
      | same => exact Or.inl rfl
      | made => exact Or.inr (Or.inl ⟨rfl, rfl⟩)
      | written wanted _ =>
          obtain ⟨context, arts, ready, writing, listed⟩ := allowed _ wanted
          obtain ⟨artifact, present, here, rfl⟩ := Artifact.mem_writes.1 listed
          exact Or.inr (Or.inr ⟨options, context, arts, parsed, ready, writing, artifact, present,
            here.symm, rfl⟩)
    · constructor
      · intro differs
        rcases buildAction_eq_error stopped with ⟨_, rfl⟩ | ⟨context, arts, ready, _⟩
        · exact absurd differs (FileTree.not_differs_self after)
        · exact ⟨options, context, arts, parsed, ready,
            (differs_iff_started stopped ready).1 differs⟩
      · rintro ⟨_, context, arts, again, ready, started⟩
        cases parsed.symm.trans again
        exact (differs_iff_started stopped ready).2 started
  · have same := run_keeps world (fun options parsed => building ⟨options, parsed⟩) tree
    rw [same]
    refine ⟨fun place => Or.inl rfl,
      fun differs => absurd differs (FileTree.not_differs_self tree), ?_⟩
    rintro ⟨options, _, _, parsed, _⟩
    exact absurd ⟨options, parsed⟩ building

def demoWorld : World where
  directory := ⟨true, []⟩
  timestamp := ""
  renderer := Banner.noFonts

/-- A small project whose last artifact has a directory in its place. -/
def blockedTree : FileTree where
  entries := [
    (["cli.json"], .text ("\x7b\"title\": \"Demo\", \"uri\": \"demo.dev\", \"mainMenu\": \"main\", "
      ++ "\"menus\": \x7b\"main\": \x7b\"commands\": \x7b\x7d\x7d\x7d\x7d")),
    (["out"], .directory),
    (["out", "CNAME"], .directory)]

theorem prepare_blockedTree :
    ∃ context arts, prepare demoWorld {} blockedTree = .ok (context, arts) := by
  have done : (prepare demoWorld {} blockedTree).isOk = true := by decide +kernel
  obtain ⟨⟨context, arts⟩, ready⟩ := exists_of_isOk done
  exact ⟨context, arts, ready⟩

/-- The build fails at its last artifact, when it has written the others. -/
theorem blockedTree_partly_built :
    (run demoWorld ["build"] blockedTree).1.Failed ∧
    blockedTree.Differs (run demoWorld ["build"] blockedTree).2 := by
  have parsed : Invocation.parse ["build"] = .ok (.build {}) := rfl
  have out : outDirectory demoWorld {} = ⟨true, ["out"]⟩ := by decide +kernel
  obtain ⟨context, arts, ready⟩ := prepare_blockedTree
  obtain ⟨scripts, rfl⟩ := exists_scripts_of_prepare ready
  have filled := artifacts_filled context.spec scripts
  have put : blockedTree.write ⟨true, []⟩ (Path.child ⟨true, ["out"]⟩ "index.html")
      (.ok (Page.index context.spec scripts.bash .bash)) =
        (.ok (), blockedTree.set ["out", "index.html"]
          (.text (Page.index context.spec scripts.bash .bash))) :=
    FileTree.write_of_room rfl (FileTree.makeDirectories_of_ensured rfl) rfl
  have first : blockedTree.FirstChange ⟨true, []⟩ ⟨true, ["out"]⟩
      (artifacts context.spec scripts) := by
    refine ⟨[], _, _, rfl, fun _ none => absurd none List.not_mem_nil,
      ["out", "index.html"], ?_⟩
    rw [FileTree.update_of_absent (filled _ List.mem_cons_self) rfl put,
      FileTree.get?_set _ (List.cons_ne_nil _ _), if_pos rfl]
    exact Option.some_ne_none _
  have present : ⟨"CNAME", s!"{context.spec.uri.display}\n"⟩ ∈ artifacts context.spec scripts := by
    simp [artifacts]
  have blocked : blockedTree.look ⟨true, []⟩ (Path.child ⟨true, ["out"]⟩ "CNAME") =
      .ok (some .directory) := rfl
  have lands := outDirectory_lands demoWorld {} blockedTree demoWorld.directory
  rw [← out] at blocked first
  obtain ⟨error, stops⟩ : ∃ error, (FileTree.updateAll demoWorld.directory
      (outDirectory demoWorld {}) (BuildOptions.mode {}) (artifacts context.spec scripts)
      blockedTree).1 = .error error :=
    lands.exists_error_of_directory (artifacts_laidOut context.spec scripts).down present blocked
  have failed := failed_of_updateAll parsed ready stops
  have started : Started demoWorld {} (artifacts context.spec scripts) blockedTree :=
    Or.inl ⟨rfl, first⟩
  have paired : DescribesPaired demoWorld ["build"] blockedTree := by
    intro options again path text found
    cases again
    have same : blockedTree.readText demoWorld.directory path (.unreadableJson path.text) =
        .ok _ := rfl
    cases same.symm.trans found
    decide +kernel
  have changes :=
    (failed_run_changes_iff_started demoWorld ["build"] blockedTree paired failed).2
  exact ⟨failed, changes.mpr ⟨{}, context, _, parsed, ready, started⟩⟩

end ShellMenu.CommandLine
