import ShellMenu.Files.Artifacts
import ShellMenu.Proofs.Files.Tree

/-
  Bringing the files of a build up to date. A run that writes reads each file when its turn comes,
  in a tree that it has changed already; a check reads all of them in the tree it was given. Both
  read the same, because what was written before lies at other places.
-/

namespace ShellMenu

/-! ## Contents -/

namespace Text

theorem append_ne_empty (text : String) {ending : String} (filled : ending ≠ "") :
    text ++ ending ≠ "" := by
  intro empty
  exact filled (String.append_eq_empty_iff.1 empty).2

theorem replaceChars_ne_nil {old fresh chars : List Char} (shown : fresh ≠ [])
    (filled : chars ≠ []) : replaceChars old fresh chars ≠ [] := by
  obtain ⟨first, rest, rfl⟩ := List.exists_cons_of_ne_nil filled
  rw [replaceChars]
  split
  · exact List.append_ne_nil_of_left_ne_nil shown _
  · rw [replaceFrom]
    split
    · exact List.append_ne_nil_of_left_ne_nil shown _
    · exact List.cons_ne_nil first _

theorem replaceAll_ne_empty {old fresh text : String} (shown : fresh ≠ "") (filled : text ≠ "") :
    replaceAll old fresh text ≠ "" := by
  rw [replaceAll, Ne, String.ofList_eq_empty_iff]
  exact replaceChars_ne_nil (mt String.toList_eq_nil_iff.1 shown)
    (mt String.toList_eq_nil_iff.1 filled)

theorem toCrlf_ne_empty {text : String} (filled : text ≠ "") : toCrlf text ≠ "" :=
  replaceAll_ne_empty (by decide) (replaceAll_ne_empty (by decide) filled)

end Text

theorem artifacts_filled (spec : Spec) (scripts : Scripts) :
    ∀ artifact ∈ artifacts spec scripts, artifact.content ≠ "" := by
  have page : ∀ lines, Text.terminated lines ≠ "" :=
    fun lines => Text.append_ne_empty _ (by decide)
  simp only [artifacts, List.forall_mem_cons, List.not_mem_nil, false_imp_iff, implies_true,
    and_true]
  exact ⟨page _, page _, Text.toCrlf_ne_empty (page _), page _, Text.toCrlf_ne_empty (page _),
    Text.append_ne_empty _ (by decide)⟩

namespace FileTree

variable {tree after : FileTree} {base path : Path} {content : String}

/-! ## Reading -/

/-- What there is at the end of a path, as text. -/
def asText (path : Path) : Option Entry → Result String
  | none => .ok ""
  | some (.text content) => .ok content
  | some (.binary _) => breaking (.notUtf8 path.text)
  | some .directory => failing (.unreadableFile path.text .isDirectory)

theorem readIfThere_eq (tree : FileTree) (base path : Path) :
    tree.readIfThere base path = tree.look base path >>= asText path := by
  cases seen : tree.look base path with
  | error error => simp [readIfThere, isThere, seen, bind, Except.bind]
  | ok found =>
      cases found with
      | none => simp [readIfThere, isThere, seen, bind, Except.bind, asText, pure, Except.pure]
      | some entry =>
          obtain ⟨nul, place, reached, held⟩ := locate_of_look seen
          cases entry <;>
            simp [readIfThere, isThere, seen, bind, Except.bind, asText, pure, Except.pure,
              readText, nul, FileTree.entry, reached, held]

theorem look_of_readIfThere {old : String} (read : tree.readIfThere base path = .ok old) :
    ∃ found, tree.look base path = .ok found ∧ found ≠ some .directory ∧
      asText path found = .ok old := by
  rw [readIfThere_eq] at read
  obtain ⟨found, seen, shown⟩ := exists_of_bind_eq_ok read
  refine ⟨found, seen, ?_, shown⟩
  rintro rfl
  cases shown

/-- Only what is there reads as more than nothing. -/
theorem look_of_readIfThere_ne {old : String} (read : tree.readIfThere base path = .ok old)
    (something : old ≠ "") : tree.look base path = .ok (some (.text old)) := by
  obtain ⟨found, seen, _, shown⟩ := look_of_readIfThere read
  rw [seen]
  match found, shown with
  | none, shown => exact absurd (Except.ok.inj shown).symm something
  | some (.text content), shown => rw [Except.ok.inj shown]

theorem readIfThere_of_look (seen : tree.look base path = .ok (some (.text content))) :
    tree.readIfThere base path = .ok content := by
  rw [readIfThere_eq, seen]
  rfl

/-! ## One file -/

/-- What is said of a file that reads as `old` and should hold the content. -/
def verdict (path : Path) (content : String) (pending : Status) (old : String) : Status × String :=
  if old = content then (.unchanged, "")
  else (pending, Diff.unified old content s!"a/{path.text}" s!"b/{path.text}")

theorem update_of_pending {mode : WriteMode} {status : Status}
    (pending : mode.pending = some status)
    (tree : FileTree) (base path : Path) (content : String) :
    tree.update base path content mode =
      ((tree.readIfThere base path).map (verdict path content status), tree) := by
  rw [update]
  cases tree.readIfThere base path with
  | error error => rfl
  | ok old =>
      simp only [Except.map, verdict, pending]
      split <;> rfl

theorem update_of_look {mode : WriteMode}
    (held : tree.look base path = .ok (some (.text content))) :
    tree.update base path content mode = (.ok (.unchanged, ""), tree) := by
  rw [update, readIfThere_of_look held]
  exact if_pos rfl

theorem update_of_absent (filled : content ≠ "") (absent : tree.look base path = .ok none)
    (put : tree.write base path (.ok content) = (.ok (), after)) :
    tree.update base path content {} = (.ok (verdict path content .updated ""), after) := by
  have read : tree.readIfThere base path = .ok "" := by
    rw [readIfThere_eq, absent]
    rfl
  simp [update, read, filled.symm, put, WriteMode.pending, verdict]

theorem update_of_directory {mode : WriteMode}
    (blocked : tree.look base path = .ok (some .directory)) :
    tree.update base path content mode =
      (failing (.unreadableFile path.text .isDirectory), tree) := by
  rw [update, readIfThere_eq, blocked]
  rfl

/-- A file that was brought up to date holds its content, unless it should be empty and is not
there. -/
theorem update_eq_ok {mode : WriteMode} {said : Status × String} (writing : mode.pending = none)
    (done : tree.update base path content mode = (.ok said, after)) :
    ∃ old, tree.readIfThere base path = .ok old ∧ said = verdict path content .updated old ∧
      (old = content ∧ after = tree ∨
        old ≠ content ∧ ∃ place, after.look base path = .ok (some (.text content)) ∧
          after.locate base path = .ok place ∧ Updated [(place, content)] tree after) := by
  rw [update] at done
  cases read : tree.readIfThere base path with
  | error error =>
      rw [read] at done
      cases done
  | ok old =>
      refine ⟨old, rfl, ?_⟩
      simp only [read, writing] at done
      rw [verdict]
      split at done
      · next same =>
          cases done
          rw [if_pos same]
          exact ⟨rfl, Or.inl ⟨same, rfl⟩⟩
      · next differs =>
          rw [if_neg differs]
          split at done
          · next written =>
              cases done
              obtain ⟨text, place, given, seen, reached, updated⟩ := write_eq_ok written
              cases given
              exact ⟨rfl, Or.inr ⟨differs, place, seen, reached, updated⟩⟩
          · cases done

theorem update_updated_of_error {mode : WriteMode} {error : Error}
    (failed : tree.update base path content mode = (.error error, after)) :
    Updated [] tree after := by
  rw [update] at failed
  split at failed
  · cases failed
    exact .refl tree
  · split at failed
    · cases failed
    · simp only at failed
      split at failed
      · cases failed
      · split at failed
        · cases failed
        · next unwritten =>
            cases failed
            exact write_updated_of_error unwritten

theorem Lands.update_updated {out : Path} {root : List String} (lands : tree.Lands base out root)
    (down : path.Descends) (content : String) (mode : WriteMode) :
    Updated [(root ++ path.parts, content)] tree
      (tree.update base (out.join path) content mode).2 := by
  cases pending : mode.pending with
  | some status =>
      rw [update_of_pending pending]
      exact .refl tree
  | none =>
      match done : tree.update base (out.join path) content mode with
      | (.error error, after) =>
          exact (update_updated_of_error done).mono (List.nil_subset _)
      | (.ok said, after) =>
          obtain ⟨old, _, _, ⟨_, rfl⟩ | ⟨_, place, _, reached, updated⟩⟩ :=
            update_eq_ok pending done
          · exact .refl after
          · rw [← (lands.updated updated).locate_join down reached]
            exact updated

end FileTree

/-! ## All files -/

namespace Artifact

/-- Where an artifact goes when the output directory is at `root`. -/
def place (root : List String) (artifact : Artifact) : List String :=
  root ++ (Path.ofText artifact.path).parts

def writes (root : List String) (artifacts : List Artifact) : List (List String × String) :=
  artifacts.map fun artifact => (artifact.place root, artifact.content)

theorem mem_writes {root place : List String} {content : String} {artifacts : List Artifact} :
    (place, content) ∈ writes root artifacts ↔
      ∃ artifact ∈ artifacts, artifact.place root = place ∧ artifact.content = content := by
  simp [writes]

/-- Each artifact has a place of its own below the output directory. -/
structure LaidOut (artifacts : List Artifact) : Prop where
  down : ∀ artifact ∈ artifacts, (Path.ofText artifact.path).Descends
  apart : (artifacts.map fun artifact => (Path.ofText artifact.path).parts).Nodup

theorem LaidOut.tail {artifact : Artifact} {rest : List Artifact}
    (laidOut : LaidOut (artifact :: rest)) : LaidOut rest :=
  ⟨fun other present => laidOut.down other (List.mem_cons_of_mem _ present),
    (List.nodup_cons.1 laidOut.apart).2⟩

theorem LaidOut.head {artifact : Artifact} {rest : List Artifact}
    (laidOut : LaidOut (artifact :: rest)) : (Path.ofText artifact.path).Descends :=
  laidOut.down artifact List.mem_cons_self

theorem LaidOut.not_mem_writes {artifact : Artifact} {rest : List Artifact}
    (laidOut : LaidOut (artifact :: rest)) (root : List String) (content : String) :
    (artifact.place root, content) ∉ writes root rest := by
  rw [mem_writes]
  rintro ⟨other, present, same, _⟩
  have fresh := (List.nodup_cons.1 laidOut.apart).1
  exact fresh (List.mem_map.2 ⟨other, present, List.append_cancel_left same⟩)

end Artifact

theorem artifacts_laidOut (spec : Spec) (scripts : Scripts) :
    Artifact.LaidOut (artifacts spec scripts) := by
  have down : ∀ path ∈ artifactPaths, (Path.ofText path).Descends := by decide +kernel
  have apart : (artifactPaths.map fun path => (Path.ofText path).parts).Nodup := by decide +kernel
  rw [← map_path_artifacts spec scripts] at down apart
  refine ⟨fun artifact present => down _ (List.mem_map_of_mem present), ?_⟩
  rw [List.map_map] at apart
  exact apart

namespace FileTree

variable {tree after first : FileTree} {base out : Path} {root : List String}
  {arts : List Artifact} {written : List Written} {mode : WriteMode}

theorem updateAll_cons (base out : Path) (mode : WriteMode) (artifact : Artifact)
    (arts : List Artifact) (tree : FileTree) :
    updateAll base out mode (artifact :: arts) tree =
      match tree.update base (out.child artifact.path) artifact.content mode with
      | (.error error, middle) => (.error error, middle)
      | (.ok (status, diff), middle) =>
          ((updateAll base out mode arts middle).1.map
              (⟨artifact.path, (out.child artifact.path).text, status, diff⟩ :: ·),
            (updateAll base out mode arts middle).2) := by
  rw [updateAll]
  rcases tree.update base (out.child artifact.path) artifact.content mode
    with ⟨error | ⟨status, diff⟩, middle⟩
  · rfl
  · dsimp only
    rcases updateAll base out mode arts middle with ⟨error | later, final⟩ <;> rfl

theorem updateAll_cons_of_ok {artifact : Artifact} {said : Status × String} {middle : FileTree}
    (brought : tree.update base (out.child artifact.path) artifact.content mode =
      (.ok said, middle))
    (finished : updateAll base out mode arts middle = (.ok written, after)) :
    updateAll base out mode (artifact :: arts) tree =
      (.ok (⟨artifact.path, (out.child artifact.path).text, said.1, said.2⟩ :: written),
        after) := by
  simp only [updateAll_cons, brought, finished]
  rfl

theorem updateAll_cons_eq_ok {artifact : Artifact}
    (done : updateAll base out mode (artifact :: arts) tree = (.ok written, after)) :
    ∃ said middle later,
      tree.update base (out.child artifact.path) artifact.content mode = (.ok said, middle) ∧
      updateAll base out mode arts middle = (.ok later, after) ∧
      written = ⟨artifact.path, (out.child artifact.path).text, said.1, said.2⟩ :: later := by
  rw [updateAll_cons] at done
  split at done
  · cases done
  · next status diff middle brought =>
      rcases rest : updateAll base out mode arts middle with ⟨error | later, final⟩
      · rw [rest] at done
        cases done
      · rw [rest] at done
        cases done
        exact ⟨(status, diff), middle, later, brought, rest, rfl⟩

theorem Lands.artifact_updated (lands : tree.Lands base out root) {artifact : Artifact}
    (down : (Path.ofText artifact.path).Descends) (mode : WriteMode) :
    Updated [(artifact.place root, artifact.content)] tree
      (tree.update base (out.child artifact.path) artifact.content mode).2 :=
  lands.update_updated down artifact.content mode

/-- However the pass ends, it has written nothing but artifacts to their places. -/
theorem Lands.updateAll_updated (lands : tree.Lands base out root) (mode : WriteMode)
    (down : ∀ artifact ∈ arts, (Path.ofText artifact.path).Descends) :
    Updated (Artifact.writes root arts) tree (updateAll base out mode arts tree).2 := by
  induction arts generalizing tree with
  | nil => exact .refl tree
  | cons artifact rest ih =>
      obtain ⟨downHead, downRest⟩ := List.forall_mem_cons.1 down
      have step := lands.artifact_updated downHead mode
      have later := ih (lands.updated step) downRest
      have whole : Updated (Artifact.writes root (artifact :: rest)) tree _ :=
        step.mono (List.cons_subset_cons _ (List.nil_subset _))
      rw [updateAll_cons]
      split
      · next done =>
          rw [done] at whole
          exact whole
      · next done =>
          rw [done] at whole later
          exact whole.trans (later.mono (List.subset_cons_self _ _))

theorem updateAll_of_pending {pending : Status} (waits : mode.pending = some pending)
    (base out : Path) (arts : List Artifact) (tree : FileTree) :
    (updateAll base out mode arts tree).2 = tree := by
  induction arts with
  | nil => rfl
  | cons artifact rest ih =>
      rw [updateAll_cons, update_of_pending waits]
      cases tree.readIfThere base (out.child artifact.path) with
      | error error => rfl
      | ok old => exact ih

/-- A pass to the end leaves every artifact with its content. -/
theorem Lands.updateAll_holds (lands : tree.Lands base out root) (writing : mode.pending = none)
    (laidOut : Artifact.LaidOut arts) (filled : ∀ artifact ∈ arts, artifact.content ≠ "")
    (done : updateAll base out mode arts tree = (.ok written, after)) :
    ∀ artifact ∈ arts,
      after.look base (out.child artifact.path) = .ok (some (.text artifact.content)) := by
  induction arts generalizing tree written with
  | nil => exact fun _ present => absurd present List.not_mem_nil
  | cons artifact rest ih =>
      obtain ⟨said, middle, later, updated, finished, _⟩ := updateAll_cons_eq_ok done
      obtain ⟨filledHead, filledRest⟩ := List.forall_mem_cons.1 filled
      have step := lands.artifact_updated laidOut.head mode
      rw [updated] at step
      have held : middle.look base (out.child artifact.path) =
          .ok (some (.text artifact.content)) := by
        obtain ⟨old, read, _, ⟨rfl, rfl⟩ | ⟨_, _, seen, _⟩⟩ := update_eq_ok writing updated
        · exact look_of_readIfThere_ne read filledHead
        · exact seen
      have landsAfter := lands.updated step
      have others := landsAfter.updateAll_updated mode laidOut.tail.down
      rw [finished] at others
      refine List.forall_mem_cons.2 ⟨?_, ih landsAfter laidOut.tail filledRest finished⟩
      obtain ⟨_, place, reached, _⟩ := locate_of_look held
      refine others.look_kept held reached fun content => ?_
      rw [landsAfter.locate_join laidOut.head reached]
      exact laidOut.not_mem_writes root content

/-- A further pass finds nothing to do. -/
theorem updateAll_of_held (mode : WriteMode)
    (held : ∀ artifact ∈ arts,
      tree.look base (out.child artifact.path) = .ok (some (.text artifact.content))) :
    updateAll base out mode arts tree =
      (.ok (arts.map fun artifact =>
        ⟨artifact.path, (out.child artifact.path).text, .unchanged, ""⟩), tree) := by
  induction arts with
  | nil => rfl
  | cons artifact rest ih =>
      obtain ⟨here, others⟩ := List.forall_mem_cons.1 held
      exact updateAll_cons_of_ok (update_of_look here) (ih others)

/-- A pass that writes the first file and finds the others up to date. -/
theorem updateAll_of_written {artifact : Artifact} (filled : artifact.content ≠ "")
    (absent : tree.look base (out.child artifact.path) = .ok none)
    (put : tree.write base (out.child artifact.path) (.ok artifact.content) = (.ok (), after))
    (held : ∀ other ∈ arts,
      after.look base (out.child other.path) = .ok (some (.text other.content))) :
    ∃ written, updateAll base out {} (artifact :: arts) tree = (.ok written, after) ∧
      written.map Written.status = .updated :: arts.map fun _ => .unchanged := by
  refine ⟨_, updateAll_cons_of_ok (update_of_absent filled absent put)
    (updateAll_of_held {} held), ?_⟩
  simp [verdict, filled.symm, Function.comp_def]

/-- A pass that finds no file and leaves all of them pending. -/
theorem updateAll_of_absent {pending : Status} (waits : mode.pending = some pending)
    (filled : ∀ artifact ∈ arts, artifact.content ≠ "")
    (absent : ∀ artifact ∈ arts, tree.look base (out.child artifact.path) = .ok none) :
    ∃ checked, updateAll base out mode arts tree = (.ok checked, tree) ∧
      checked.map Written.status = arts.map fun _ => pending := by
  induction arts with
  | nil => exact ⟨[], rfl, rfl⟩
  | cons artifact rest ih =>
      obtain ⟨filledHead, filledRest⟩ := List.forall_mem_cons.1 filled
      obtain ⟨absentHead, absentRest⟩ := List.forall_mem_cons.1 absent
      obtain ⟨checked, done, told⟩ := ih filledRest absentRest
      have first : tree.update base (out.child artifact.path) artifact.content mode =
          (.ok (verdict (out.child artifact.path) artifact.content pending ""), tree) := by
        rw [update_of_pending waits, readIfThere_eq, absentHead]
        rfl
      refine ⟨_, updateAll_cons_of_ok first done, ?_⟩
      simp [verdict, filledHead.symm, told]

/-- A file that was not written so far reads as it did at first. -/
theorem Lands.readIfThere_back {writes : List (List String × String)} {path : Path} {old : String}
    (lands : first.Lands base out root) (grounded : first.Grounded)
    (updated : Updated writes first tree) (down : path.Descends)
    (untouched : ∀ content, (root ++ path.parts, content) ∉ writes)
    (read : tree.readIfThere base (out.join path) = .ok old) :
    first.readIfThere base (out.join path) = .ok old := by
  obtain ⟨found, seen, file, shown⟩ := look_of_readIfThere read
  rw [readIfThere_eq, lands.look_back grounded updated down untouched file seen]
  exact shown

/-! ## Passes that stop -/

theorem differs_of_update {said : Status × String} {path : Path} {content : String}
    (writing : mode.pending = none)
    (done : tree.update base path content mode = (.ok said, after)) :
    tree.readIfThere base path = .ok content ∧ after = tree ∨ tree.Differs after := by
  obtain ⟨old, read, _, ⟨rfl, same⟩ | ⟨outdated, place, seen, reached, _⟩⟩ :=
    update_eq_ok writing done
  · exact Or.inl ⟨read, same⟩
  · refine Or.inr (Classical.byContradiction fun same => outdated ?_)
    have back : Updated [] after tree := .of_not_differs same
    have held := back.look_kept seen reached fun _ => List.not_mem_nil
    exact Except.ok.inj (read.symm.trans (readIfThere_of_look held))

/-- An artifact is the first to be worked on when those before it are up to date. -/
def FirstChange (tree : FileTree) (base out : Path) (arts : List Artifact) : Prop :=
  ∃ settled next rest, arts = settled ++ next :: rest ∧
    (∀ artifact ∈ settled,
      tree.look base (out.child artifact.path) = .ok (some (.text artifact.content))) ∧
    tree.Differs (tree.update base (out.child next.path) next.content {}).2

/-- A pass that changes nothing has found every artifact up to date, or stops at once. -/
theorem firstChange_or_settled (filled : ∀ artifact ∈ arts, artifact.content ≠ "")
    (tree : FileTree) (base out : Path) :
    tree.FirstChange base out arts ∨
      ¬ tree.Differs (updateAll base out {} arts tree).2 ∧
        ∀ written after, updateAll base out {} arts tree = (.ok written, after) → after = tree := by
  induction arts with
  | nil =>
      refine Or.inr ⟨not_differs_self tree, fun written after done => ?_⟩
      cases done
      rfl
  | cons artifact rest ih =>
      obtain ⟨filledHead, filledRest⟩ := List.forall_mem_cons.1 filled
      by_cases changes : tree.Differs
          (tree.update base (out.child artifact.path) artifact.content {}).2
      · exact Or.inl ⟨[], artifact, rest, rfl, fun _ none => absurd none List.not_mem_nil, changes⟩
      · rcases brought : tree.update base (out.child artifact.path) artifact.content {}
          with ⟨error | said, middle⟩
        · rw [brought] at changes
          refine Or.inr ?_
          rw [updateAll_cons, brought]
          exact ⟨changes, fun _ _ done => by cases done⟩
        · rw [brought] at changes
          obtain ⟨read, rfl⟩ := (differs_of_update rfl brought).resolve_right changes
          have held := look_of_readIfThere_ne read filledHead
          rcases ih filledRest with ⟨settled, next, later, rfl, heldRest, differs⟩ | ⟨same, ends⟩
          · exact Or.inl ⟨artifact :: settled, next, later, rfl,
              List.forall_mem_cons.2 ⟨held, heldRest⟩, differs⟩
          · refine Or.inr ⟨?_, fun written after done => ?_⟩
            · rw [updateAll_cons, brought]
              exact same
            · obtain ⟨_, _, later, broughtAgain, finished, _⟩ := updateAll_cons_eq_ok done
              cases brought.symm.trans broughtAgain
              exact ends later after finished

/-- The first change stays, since the artifacts after it go to other places. -/
theorem Lands.differs_of_firstChange (lands : tree.Lands base out root)
    (laidOut : Artifact.LaidOut arts) (first : tree.FirstChange base out arts) :
    tree.Differs (updateAll base out {} arts tree).2 := by
  obtain ⟨settled, next, rest, rfl, held, changes⟩ := first
  induction settled with
  | nil =>
      have step := lands.artifact_updated laidOut.head {}
      rw [List.nil_append, updateAll_cons]
      rcases brought : tree.update base (out.child next.path) next.content {}
        with ⟨error | said, middle⟩
      · rw [brought] at changes
        exact changes
      · rw [brought] at changes step
        have later := (lands.updated step).updateAll_updated {} laidOut.tail.down
        refine step.differs_trans later (fun place content other here there => ?_) changes
        cases List.mem_singleton.1 here
        exact laidOut.not_mem_writes root other there
  | cons artifact settled ih =>
      obtain ⟨heldHead, heldRest⟩ := List.forall_mem_cons.1 held
      rw [List.cons_append, updateAll_cons, update_of_look heldHead]
      exact ih laidOut.tail heldRest

/-- No pass gets by a directory in the place of an artifact. -/
theorem Lands.exists_error_of_directory (lands : tree.Lands base out root)
    (down : ∀ artifact ∈ arts, (Path.ofText artifact.path).Descends) {artifact : Artifact}
    (present : artifact ∈ arts)
    (blocked : tree.look base (out.child artifact.path) = .ok (some .directory)) :
    ∃ error, (updateAll base out mode arts tree).1 = .error error := by
  induction arts generalizing tree with
  | nil => exact absurd present List.not_mem_nil
  | cons first rest ih =>
      obtain ⟨downHead, downRest⟩ := List.forall_mem_cons.1 down
      have step := lands.artifact_updated downHead mode
      rw [updateAll_cons]
      rcases brought : tree.update base (out.child first.path) first.content mode
        with ⟨error | said, middle⟩
      · exact ⟨error, rfl⟩
      · rw [brought] at step
        rcases List.mem_cons.1 present with rfl | later
        · rw [update_of_directory blocked] at brought
          cases brought
        · obtain ⟨error, stops⟩ := ih (lands.updated step) downRest later
            (step.look_directory blocked)
          exact ⟨error, by simp only [stops]; rfl⟩

end FileTree

/-- What a run that writes says of a file, and what another run says that leaves its changes
pending. -/
structure Written.Agrees (pending : Status) (real other : Written) : Prop where
  artifact : other.artifact = real.artifact
  path : other.path = real.path
  diff : other.diff = real.diff
  status : real.status = .updated ∧ other.status = pending ∨
    real.status = .unchanged ∧ other.status = .unchanged

theorem Written.agrees_verdict (name shown : String) (path : Path) (content old : String)
    (pending : Status) :
    Written.Agrees pending
      ⟨name, shown, (FileTree.verdict path content .updated old).1,
        (FileTree.verdict path content .updated old).2⟩
      ⟨name, shown, (FileTree.verdict path content pending old).1,
        (FileTree.verdict path content pending old).2⟩ := by
  by_cases same : old = content
  · simp only [FileTree.verdict, if_pos same]
    exact ⟨rfl, rfl, rfl, Or.inr ⟨rfl, rfl⟩⟩
  · simp only [FileTree.verdict, if_neg same]
    exact ⟨rfl, rfl, rfl, Or.inl ⟨rfl, rfl⟩⟩

namespace FileTree

variable {tree after first : FileTree} {base out : Path} {root : List String}
  {arts : List Artifact} {written : List Written} {mode : WriteMode}

/-- The tree that a pass has come to differs from the first one at the places of earlier artifacts,
and those still to come are read as they were at first. What it has written so far is `writes`. -/
theorem Lands.updateAll_agrees {writes : List (List String × String)} {pending : Status}
    (lands : first.Lands base out root) (grounded : first.Grounded)
    (laidOut : Artifact.LaidOut arts) (updated : Updated writes first tree)
    (untouched : ∀ artifact ∈ arts, ∀ content, (artifact.place root, content) ∉ writes)
    (done : updateAll base out {} arts tree = (.ok written, after))
    (waits : mode.pending = some pending) :
    ∃ checked, updateAll base out mode arts first = (.ok checked, first) ∧
      List.Forall₂ (Written.Agrees pending) written checked := by
  induction arts generalizing tree written writes with
  | nil =>
      cases done
      exact ⟨[], rfl, List.Forall₂.nil⟩
  | cons artifact rest ih =>
      obtain ⟨said, middle, later, brought, finished, rfl⟩ := updateAll_cons_eq_ok done
      obtain ⟨untouchedHead, untouchedRest⟩ := List.forall_mem_cons.1 untouched
      obtain ⟨old, read, rfl, _⟩ := update_eq_ok rfl brought
      have readFirst := lands.readIfThere_back grounded updated laidOut.head untouchedHead read
      have step := (lands.updated updated).artifact_updated laidOut.head {}
      rw [brought] at step
      have sofar : Updated ((artifact.place root, artifact.content) :: writes) first middle :=
        (updated.mono (List.subset_cons_self _ _)).trans
          (step.mono (List.cons_subset_cons _ (List.nil_subset _)))
      have untouchedLater : ∀ other ∈ rest, ∀ content,
          (other.place root, content) ∉ (artifact.place root, artifact.content) :: writes := by
        intro other present content held
        rcases List.mem_cons.1 held with same | earlier
        · refine laidOut.not_mem_writes root other.content ?_
          exact Artifact.mem_writes.2 ⟨other, present, congrArg Prod.fst same, rfl⟩
        · exact untouchedRest other present content earlier
      obtain ⟨checked, run, agree⟩ := ih laidOut.tail sofar untouchedLater finished
      have checkedHead : first.update base (out.child artifact.path) artifact.content mode =
          (.ok (verdict (out.child artifact.path) artifact.content pending old), first) := by
        rw [update_of_pending waits, Path.child, readFirst]
        rfl
      refine ⟨_, updateAll_cons_of_ok checkedHead run, List.Forall₂.cons ?_ agree⟩
      exact Written.agrees_verdict _ _ _ _ _ _

end FileTree

/-- A check and a dry run change nothing. When a run that writes comes to its end, they would have
named the same files with the same differences; every artifact then holds its content, nothing
else has changed but for directories that were made, and whatever run comes next finds nothing to
do. Double dots in the output directory have to follow directories that exist. -/
theorem writing_modes_agree (spec : Spec) (scripts : Scripts) (base out : Path) (tree : FileTree)
    (grounded : tree.Grounded) :
    (∀ mode : WriteMode, mode.pending ≠ none →
      (FileTree.updateAll base out mode (artifacts spec scripts) tree).2 = tree) ∧
    ((∃ root, tree.Lands base out root) → ∀ written after,
      FileTree.updateAll base out {} (artifacts spec scripts) tree = (.ok written, after) →
      (∀ (mode : WriteMode) (pending : Status), mode.pending = some pending →
        ∃ checked, FileTree.updateAll base out mode (artifacts spec scripts) tree =
          (.ok checked, tree) ∧ List.Forall₂ (Written.Agrees pending) written checked) ∧
      (∀ artifact ∈ artifacts spec scripts,
        after.look base (out.child artifact.path) = .ok (some (.text artifact.content))) ∧
      (∀ place, (∀ artifact ∈ artifacts spec scripts,
          after.locate base (out.child artifact.path) ≠ .ok place) →
        after.get? place = tree.get? place ∨
          tree.get? place = none ∧ after.get? place = some .directory) ∧
      ∀ mode, ∃ again,
        FileTree.updateAll base out mode (artifacts spec scripts) after = (.ok again, after) ∧
        again.map Written.artifact = artifactPaths ∧
        (∀ entry ∈ again, entry.status = .unchanged ∧ entry.diff = "") ∧
        hasDrift again = false) := by
  have laidOut := artifacts_laidOut spec scripts
  constructor
  · intro mode waits
    obtain ⟨pending, waits⟩ := Option.ne_none_iff_exists'.1 waits
    exact FileTree.updateAll_of_pending waits base out _ tree
  · rintro ⟨root, lands⟩ written after done
    have updated := lands.updateAll_updated {} laidOut.down
    have held := lands.updateAll_holds rfl laidOut (artifacts_filled spec scripts) done
    rw [done] at updated
    refine ⟨fun mode pending waits => ?_, held, fun place elsewhere => ?_, fun mode => ?_⟩
    · have same : FileTree.Updated [] tree tree := .refl tree
      exact lands.updateAll_agrees grounded laidOut same (fun _ _ _ => List.not_mem_nil) done waits
    · generalize before : tree.get? place = old
      generalize now : after.get? place = new
      have change := updated place
      rw [before, now] at change
      cases change with
      | same => exact Or.inl rfl
      | made => exact Or.inr ⟨rfl, rfl⟩
      | written wanted _ =>
          obtain ⟨artifact, present, rfl, _⟩ := Artifact.mem_writes.1 wanted
          obtain ⟨_, here, reached, _⟩ := FileTree.locate_of_look (held artifact present)
          have same := (lands.updated updated).locate_join (laidOut.down artifact present) reached
          rw [same] at reached
          exact absurd reached (elsewhere artifact present)
    · refine ⟨_, FileTree.updateAll_of_held mode held, ?_, ?_, ?_⟩
      · rw [List.map_map]
        exact map_path_artifacts spec scripts
      · intro entry present
        obtain ⟨artifact, _, rfl⟩ := List.mem_map.1 present
        exact ⟨rfl, rfl⟩
      · simp [hasDrift]

/-! ## A small build -/

def plainSpec : Spec where
  title := .str "Demo"
  uri := .str "demo.dev"
  description := none
  mainMenu := "main"
  menus := []
  auth := AuthTable.ofList []

def plainArtifacts : List Artifact :=
  artifacts plainSpec ⟨"", ""⟩

/-- Some files in the directory `b`. -/
def treeOf (files : List Artifact) : FileTree where
  entries := [(["b"], .directory), (["b", "w"], .directory)]
    ++ files.map fun artifact => (artifact.place ["b"], .text artifact.content)

/-- The page that a run writes first. -/
def withPage (tree : FileTree) : FileTree :=
  tree.set ["b", "index.html"] (.text (Page.index plainSpec "" .bash))

/-- With the page missing, a check tells what a run will do. -/
theorem missing_page_is_written :
    (treeOf plainArtifacts.tail).Grounded ∧
    ∃ written after,
      FileTree.updateAll ⟨true, []⟩ (Path.ofText "b") {} plainArtifacts
        (treeOf plainArtifacts.tail) = (.ok written, after) ∧
      written.map Written.status =
        [.updated, .unchanged, .unchanged, .unchanged, .unchanged, .unchanged] ∧
      (∃ checked, FileTree.updateAll ⟨true, []⟩ (Path.ofText "b") { check := true } plainArtifacts
          (treeOf plainArtifacts.tail) = (.ok checked, treeOf plainArtifacts.tail) ∧
        List.Forall₂ (Written.Agrees .drift) written checked) ∧
      ∃ again, FileTree.updateAll ⟨true, []⟩ (Path.ofText "b") { check := true } plainArtifacts
          after = (.ok again, after) ∧ hasDrift again = false := by
  have grounded : (treeOf plainArtifacts.tail).Grounded := by decide +kernel
  have filled := artifacts_filled plainSpec ⟨"", ""⟩
  have put : (treeOf plainArtifacts.tail).write ⟨true, []⟩ ((Path.ofText "b").child "index.html")
      (.ok (Page.index plainSpec "" .bash)) = (.ok (), withPage (treeOf plainArtifacts.tail)) :=
    FileTree.write_of_room rfl (FileTree.makeDirectories_of_ensured rfl) rfl
  have held : ∀ other ∈ plainArtifacts.tail, (withPage (treeOf plainArtifacts.tail)).look ⟨true, []⟩
      ((Path.ofText "b").child other.path) = .ok (some (.text other.content)) := by
    simp only [plainArtifacts, artifacts, List.tail_cons, List.forall_mem_cons]
    exact ⟨rfl, rfl, rfl, rfl, rfl, fun _ none => absurd none List.not_mem_nil⟩
  obtain ⟨written, done, told⟩ :=
    FileTree.updateAll_of_written (filled _ List.mem_cons_self) rfl put held
  obtain ⟨_, agree⟩ := writing_modes_agree plainSpec ⟨"", ""⟩ ⟨true, []⟩ (Path.ofText "b")
    (treeOf plainArtifacts.tail) grounded
  obtain ⟨checks, _, _, again⟩ := agree ⟨_, .of_plain _ _ (by decide +kernel)⟩ written _ done
  obtain ⟨repeated, rerun, _, _, settled⟩ := again { check := true }
  exact ⟨grounded, written, _, done, told, checks { check := true } .drift rfl,
    repeated, rerun, settled⟩

/-- Nothing can be read through a directory that is missing, but a run that writes makes it and
then finds the other files up to date. -/
theorem climbing_from_missing_directory :
    (treeOf plainArtifacts).Grounded ∧
    (∃ checked, FileTree.updateAll ⟨true, []⟩ (Path.ofText "a/../b") { check := true }
        plainArtifacts (treeOf plainArtifacts) = (.ok checked, treeOf plainArtifacts) ∧
      checked.map Written.status = [.drift, .drift, .drift, .drift, .drift, .drift]) ∧
    ∃ written after, FileTree.updateAll ⟨true, []⟩ (Path.ofText "a/../b") {} plainArtifacts
        (treeOf plainArtifacts) = (.ok written, after) ∧
      written.map Written.status =
        [.updated, .unchanged, .unchanged, .unchanged, .unchanged, .unchanged] := by
  have grounded : (treeOf plainArtifacts).Grounded := by decide +kernel
  have filled := artifacts_filled plainSpec ⟨"", ""⟩
  have absent : ∀ artifact ∈ plainArtifacts, (treeOf plainArtifacts).look ⟨true, []⟩
      ((Path.ofText "a/../b").child artifact.path) = .ok none := by
    simp only [plainArtifacts, artifacts, List.forall_mem_cons]
    exact ⟨rfl, rfl, rfl, rfl, rfl, rfl, fun _ none => absurd none List.not_mem_nil⟩
  have made : FileTree.makeDirectories ⟨true, []⟩ false ["b", "..", "a"] (treeOf plainArtifacts) =
      (none, (treeOf plainArtifacts).set ["a"] .directory) :=
    FileTree.makeDirectories_of_missing rfl
      (FileTree.makeDirectories_of_missing rfl (FileTree.makeDirectories_of_ensured rfl) rfl) rfl
  have put : (treeOf plainArtifacts).write ⟨true, []⟩
      ((Path.ofText "a/../b").child "index.html") (.ok (Page.index plainSpec "" .bash)) =
      (.ok (), withPage ((treeOf plainArtifacts).set ["a"] .directory)) :=
    FileTree.write_of_room rfl made rfl
  have held : ∀ other ∈ plainArtifacts.tail,
      (withPage ((treeOf plainArtifacts).set ["a"] .directory)).look ⟨true, []⟩
        ((Path.ofText "a/../b").child other.path) = .ok (some (.text other.content)) := by
    simp only [plainArtifacts, artifacts, List.tail_cons, List.forall_mem_cons]
    exact ⟨rfl, rfl, rfl, rfl, rfl, fun _ none => absurd none List.not_mem_nil⟩
  obtain ⟨written, done, told⟩ :=
    FileTree.updateAll_of_written (filled _ List.mem_cons_self) rfl put held
  exact ⟨grounded, FileTree.updateAll_of_absent rfl filled absent, written, _, done, told⟩

end ShellMenu
