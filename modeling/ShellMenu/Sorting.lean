namespace ShellMenu

variable {α : Type}

/-- Before the first element that `x` may stand before. -/
def insertSorted (before : α → α → Bool) (x : α) : List α → List α
  | [] => [x]
  | y :: rest => if before x y then x :: y :: rest else y :: insertSorted before x rest

/-- Sorts and keeps the order of elements that may stand either way. -/
def sortBy (before : α → α → Bool) (xs : List α) : List α :=
  xs.foldr (insertSorted before) []

theorem insertSorted_perm (before : α → α → Bool) (x : α) (xs : List α) :
    (insertSorted before x xs).Perm (x :: xs) := by
  induction xs with
  | nil => exact List.Perm.refl _
  | cons y rest ih =>
      simp only [insertSorted]
      split
      · exact List.Perm.refl _
      · exact (ih.cons y).trans (List.Perm.swap x y rest)

theorem sortBy_perm (before : α → α → Bool) (xs : List α) : (sortBy before xs).Perm xs := by
  induction xs with
  | nil => exact List.Perm.refl _
  | cons x rest ih => exact (insertSorted_perm before x _).trans (ih.cons x)

theorem pairwise_insertSorted {before : α → α → Bool}
    (total : ∀ x y, before x y = true ∨ before y x = true)
    (trans : ∀ x y z, before x y = true → before y z = true → before x z = true)
    (x : α) {xs : List α} (sorted : xs.Pairwise (before · · = true)) :
    (insertSorted before x xs).Pairwise (before · · = true) := by
  induction xs with
  | nil => simp [insertSorted]
  | cons y rest ih =>
      obtain ⟨head, tail⟩ := List.pairwise_cons.1 sorted
      simp only [insertSorted]
      split
      · next first =>
          refine List.pairwise_cons.2 ⟨?_, sorted⟩
          intro z present
          rcases List.mem_cons.1 present with same | later
          · exact same ▸ first
          · exact trans x y z first (head z later)
      · next notFirst =>
          refine List.pairwise_cons.2 ⟨?_, ih tail⟩
          intro z present
          rcases List.mem_cons.1 ((insertSorted_perm before x rest).mem_iff.1 present) with same | later
          · exact same ▸ (total x y).resolve_left notFirst
          · exact head z later

theorem pairwise_sortBy {before : α → α → Bool}
    (total : ∀ x y, before x y = true ∨ before y x = true)
    (trans : ∀ x y z, before x y = true → before y z = true → before x z = true)
    (xs : List α) : (sortBy before xs).Pairwise (before · · = true) := by
  induction xs with
  | nil => exact List.Pairwise.nil
  | cons x rest ih => exact pairwise_insertSorted total trans x ih

@[simp] theorem sortBy_eq_nil {before : α → α → Bool} {xs : List α} :
    sortBy before xs = [] ↔ xs = [] := by
  constructor
  · intro empty
    exact List.Perm.eq_nil (empty ▸ (sortBy_perm before xs).symm)
  · rintro rfl
    rfl

end ShellMenu
