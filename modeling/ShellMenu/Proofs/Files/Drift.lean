import ShellMenu.Proofs.Diff.Patch
import ShellMenu.Proofs.Files.Artifacts

/-
  What a status is explained by. A file is up to date when it holds its content to the character,
  and the difference that is told beside the status is one of lines. So texts that differ only in
  how their lines end are told as a change, and there is no difference to show for it.
-/

namespace ShellMenu

namespace FileTree

variable {tree after : FileTree} {base path : Path} {content : String} {mode : WriteMode}

theorem pending_ne_unchanged {status : Status} (pending : mode.pending = some status) :
    status ≠ .unchanged := by
  unfold WriteMode.pending at pending
  rintro rfl
  split at pending
  · cases pending
  · split at pending <;> cases pending

/-- Whatever the mode is, what is said of a file depends on what it reads as. -/
theorem update_verdict {said : Status × String}
    (returned : tree.update base path content mode = (.ok said, after)) :
    ∃ old pending, tree.readIfThere base path = .ok old ∧ pending ≠ Status.unchanged ∧
      said = verdict path content pending old := by
  cases pending : mode.pending with
  | some status =>
      rw [update_of_pending pending] at returned
      cases read : tree.readIfThere base path with
      | error error =>
          rw [read] at returned
          cases returned
      | ok old =>
          rw [read] at returned
          cases returned
          exact ⟨old, status, rfl, pending_ne_unchanged pending, rfl⟩
  | none =>
      obtain ⟨old, read, told, _⟩ := update_eq_ok pending returned
      exact ⟨old, .updated, read, by decide, told⟩

theorem verdict_unchanged_iff {pending : Status} (changed : pending ≠ .unchanged) (old : String) :
    (verdict path content pending old).1 = .unchanged ↔ old = content := by
  unfold verdict
  split
  · next same => exact iff_of_true rfl same
  · next differs => exact iff_of_false changed differs

theorem verdict_diff_eq_empty_iff (path : Path) (content : String) (pending : Status)
    (old : String) :
    (verdict path content pending old).2 = "" ↔
      Text.normalizedLines old = Text.normalizedLines content := by
  unfold verdict
  split
  · next same => exact iff_of_true rfl (congrArg Text.normalizedLines same)
  · rw [Diff.unified_eq_empty_iff]

/-- A file is unchanged exactly if it reads as its content, and its difference is empty exactly if
both have the same lines. So a change is left without a difference exactly if it is one of line
ends alone. -/
theorem update_explained_iff (tree : FileTree) (base path : Path) (content : String)
    (mode : WriteMode) (status : Status) (diff : String) (after : FileTree)
    (returned : tree.update base path content mode = (.ok (status, diff), after)) :
    ∃ old, tree.readIfThere base path = .ok old ∧
      (status = .unchanged ↔ old = content) ∧
      (diff = "" ↔ Text.normalizedLines old = Text.normalizedLines content) ∧
      ((diff = "" ↔ status = .unchanged) ↔
        old = content ∨ Text.normalizedLines old ≠ Text.normalizedLines content) := by
  obtain ⟨old, pending, read, changed, said⟩ := update_verdict returned
  have unchanged : (verdict path content pending old).1 = .unchanged ↔ old = content :=
    verdict_unchanged_iff changed old
  have empty := verdict_diff_eq_empty_iff path content pending old
  rw [← said] at unchanged empty
  refine ⟨old, read, unchanged, empty, ?_⟩
  rw [unchanged, empty]
  constructor
  · intro agree
    by_cases same : old = content
    · exact Or.inl same
    · exact Or.inr (mt agree.1 same)
  · rintro (rfl | differ)
    · exact iff_of_true rfl rfl
    · exact iff_of_false differ fun same => differ (congrArg Text.normalizedLines same)

/-- A file whose line ends in a carriage return and a line feed. -/
def returnedTree : FileTree where
  entries := [(["x"], .text "a\r\n")]

theorem update_returnedTree :
    returnedTree.update ⟨true, []⟩ ⟨false, ["x"]⟩ "a\n" { check := true } =
      (.ok (.drift, ""), returnedTree) := by
  have read : returnedTree.readIfThere ⟨true, []⟩ ⟨false, ["x"]⟩ = .ok "a\r\n" := rfl
  have told : verdict ⟨false, ["x"]⟩ "a\n" .drift "a\r\n" = (.drift, "") := by decide +kernel
  rw [update_of_pending rfl, read, Except.map, told]

/-- The line of the file is the right one, and the file is not up to date. -/
theorem returnedTree_drift_unexplained :
    ¬ ∀ (tree : FileTree) (base path : Path) (content : String) (mode : WriteMode)
      (status : Status) (diff : String) (after : FileTree),
      tree.update base path content mode = (.ok (status, diff), after) →
        (diff = "" ↔ status = .unchanged) := by
  intro explained
  have unchanged := (explained _ _ _ _ _ _ _ _ update_returnedTree).1 rfl
  cases unchanged

theorem returnedTree_explained_by_line_ends :
    returnedTree.update ⟨true, []⟩ ⟨false, ["x"]⟩ "a\n" { check := true } =
      (.ok (.drift, ""), returnedTree) ∧
    ∃ old, returnedTree.readIfThere ⟨true, []⟩ ⟨false, ["x"]⟩ = .ok old ∧ old ≠ "a\n" ∧
      Text.normalizedLines old = Text.normalizedLines "a\n" := by
  obtain ⟨old, read, unchanged, empty, _⟩ :=
    update_explained_iff _ _ _ _ _ _ _ _ update_returnedTree
  refine ⟨update_returnedTree, old, read, ?_, empty.1 rfl⟩
  intro same
  cases unchanged.2 same

end FileTree

end ShellMenu
