import Mathlib.Data.List.Forall2
import ShellMenu.Error

/-
  How a computation may end. `Ends` names the values and the errors that a result can have, and
  its rules follow the ways in which computations are put together: a chain of steps, a pass over
  a list, a check of every element.
-/

namespace ShellMenu

def Ends {α : Type} (good : α → Prop) (bad : Error → Prop) : Result α → Prop
  | .ok value => good value
  | .error error => bad error

/-- No error is possible. -/
def Never (_ : Error) : Prop := False

namespace Ends

variable {α β : Type} {good : α → Prop} {bad : Error → Prop} {result : Result α}

theorem ok {value : α} (holds : good value) : Ends good bad (.ok value) := holds

theorem any (result : Result α) : Ends (fun _ => True) (fun _ => True) result := by
  cases result with
  | ok value => exact trivial
  | error error => exact trivial

theorem mono {good' : α → Prop} {bad' : Error → Prop} (ends : Ends good bad result)
    (values : ∀ value, good value → good' value) (errors : ∀ error, bad error → bad' error) :
    Ends good' bad' result := by
  cases result with
  | ok value => exact values value ends
  | error error => exact errors error ends

theorem of_never (ends : Ends good Never result) : Ends good bad result :=
  ends.mono (fun _ holds => holds) (fun _ impossible => impossible.elim)

theorem exists_ok (ends : Ends good Never result) : ∃ value, result = .ok value ∧ good value := by
  cases result with
  | ok value => exact ⟨value, rfl, ends⟩
  | error error => exact ends.elim

theorem of_eq_ok {value : α} (ends : Ends good bad result) (done : result = .ok value) :
    good value := by
  subst done
  exact ends

theorem and {good' : α → Prop} (ends : Ends good bad result)
    (also : Ends good' (fun _ => True) result) :
    Ends (fun value => good value ∧ good' value) bad result := by
  cases result with
  | ok value => exact ⟨ends, also⟩
  | error error => exact ends

theorem bind {good' : β → Prop} {next : α → Result β} (first : Ends good bad result)
    (after : ∀ value, good value → Ends good' bad (next value)) :
    Ends good' bad (result >>= next) := by
  cases result with
  | ok value => exact after value first
  | error error => exact first

theorem after_check {check : Result Unit} {next : Unit → Result α} (passes : check = .ok ())
    (rest : Ends good bad (next ())) : Ends good bad (check >>= next) := by
  subst passes
  exact rest

/-- A pass over a list gives one result for each element. -/
theorem mapM_forall₂ {related : α → β → Prop} {step : α → Result β} {xs : List α}
    (each : ∀ x ∈ xs, Ends (related x) bad (step x)) :
    Ends (List.Forall₂ related xs) bad (xs.mapM step) := by
  induction xs with
  | nil =>
      rw [List.mapM_nil]
      exact ok List.Forall₂.nil
  | cons x rest ih =>
      rw [List.mapM_cons]
      refine bind (each x List.mem_cons_self) fun y first => ?_
      refine bind (ih fun z present => each z (List.mem_cons_of_mem x present)) fun ys others => ?_
      exact ok (List.Forall₂.cons first others)

theorem mapM {good' : β → Prop} {step : α → Result β} {xs : List α}
    (each : ∀ x ∈ xs, Ends good' bad (step x)) :
    Ends (fun ys => ∀ y ∈ ys, good' y) bad (xs.mapM step) := by
  refine (mapM_forall₂ each).mono (fun ys all => ?_) fun _ holds => holds
  clear each
  induction all with
  | nil => simp
  | cons first _ others => simpa using ⟨first, others⟩

/-- What each step shows of its own element holds of all of them after the pass. -/
theorem mapM_elements {holds : α → Prop} {step : α → Result β} {xs : List α}
    (each : ∀ x ∈ xs, Ends (fun _ => holds x) bad (step x)) :
    Ends (fun _ => ∀ x ∈ xs, holds x) bad (xs.mapM step) := by
  refine (mapM_forall₂ each).mono (fun ys all => ?_) fun _ holds => holds
  clear each
  induction all with
  | nil => simp
  | cons first _ others => simpa using ⟨first, others⟩

/-- A pass of which only the errors matter. -/
theorem mapM_done {step : α → Result β} {xs : List α}
    (each : ∀ x ∈ xs, Ends (fun _ => True) bad (step x)) :
    Ends (fun _ => True) bad (xs.mapM step) :=
  (mapM each).mono (fun _ _ => trivial) fun _ holds => holds

/-- A pass of which a view is known. -/
theorem mapM_view {γ : Type} {view : β → γ} {expected : α → γ} {step : α → Result β} {xs : List α}
    (each : ∀ x ∈ xs, Ends (fun y => view y = expected x) bad (step x)) :
    Ends (fun ys => ys.map view = xs.map expected) bad (xs.mapM step) := by
  refine (mapM_forall₂ each).mono (fun ys all => ?_) fun _ holds => holds
  rw [← List.forall₂_eq_eq_eq, List.forall₂_map_left_iff, List.forall₂_map_right_iff]
  exact all.flip

/-- A pass without errors of which a view is known. -/
theorem mapM_map_eq {γ : Type} {view : β → γ} {expected : α → γ} {step : α → Result β} {xs : List α}
    (each : ∀ x ∈ xs, Ends (fun y => view y = expected x) Never (step x)) :
    ∃ ys, xs.mapM step = .ok ys ∧ ys.map view = xs.map expected :=
  (mapM_view each).exists_ok

end Ends

theorem forall₂_of_mapM_eq_ok {α β : Type} {step : α → Result β} {xs : List α} {ys : List β}
    (done : xs.mapM step = .ok ys) : List.Forall₂ (fun x y => step x = .ok y) xs ys := by
  have each : ∀ x ∈ xs, Ends (fun y => step x = .ok y) (fun _ => True) (step x) := by
    intro x _
    cases step x with
    | ok y => exact rfl
    | error error => exact trivial
  exact (Ends.mapM_forall₂ each).of_eq_ok done

theorem mapM_eq_ok_of_forall₂ {α β : Type} {step : α → Result β} {xs : List α} {ys : List β}
    (each : List.Forall₂ (fun x y => step x = .ok y) xs ys) : xs.mapM step = .ok ys := by
  induction each with
  | nil => rfl
  | cons first _ ih =>
      rw [List.mapM_cons, first, ih]
      rfl

theorem exists_of_bind_eq_ok {ε α β : Type} {first : Except ε α} {next : α → Except ε β} {value : β}
    (done : (first >>= next) = .ok value) :
    ∃ middle, first = .ok middle ∧ next middle = .ok value := by
  cases first with
  | ok middle => exact ⟨middle, rfl, done⟩
  | error error => cases done

theorem exists_of_isOk {ε α : Type} {result : Except ε α} (ends : result.isOk = true) :
    ∃ value, result = .ok value := by
  cases result with
  | ok value => exact ⟨value, rfl⟩
  | error error => cases ends

/-! ## Checks -/

theorem forM_eq_ok {α : Type} {check : α → Result Unit} {xs : List α}
    (passes : ∀ x ∈ xs, check x = .ok ()) : xs.forM check = .ok () := by
  induction xs with
  | nil => rfl
  | cons x rest ih =>
      show (check x >>= fun _ => rest.forM check) = .ok ()
      rw [passes x List.mem_cons_self]
      exact ih fun y present => passes y (List.mem_cons_of_mem x present)

theorem discard_eq_ok {α : Type} {result : Result α} {value : α} (done : result = .ok value) :
    discard result = .ok () := by
  subst done
  rfl

end ShellMenu
