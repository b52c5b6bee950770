import ShellMenu.Proofs.Spec.Typed

/-
  Documents whose numerals are within the limit of what can be read and written: the bounds of
  arguments and the highest access level that a spec gets from them can be written too.
-/

namespace ShellMenu

namespace Json

theorem short_of_mem {members : List (String × Json)} {member : String × Json}
    (short : membersHaveShortIntegers members = true) (present : member ∈ members) :
    member.2.hasShortIntegers = true := by
  induction members with
  | nil => cases present
  | cons head rest ih =>
      simp only [membersHaveShortIntegers, Bool.and_eq_true] at short
      rcases List.mem_cons.1 present with same | later
      · exact same ▸ short.1
      · exact ih short.2 later

theorem short_of_member? {value found : Json} {name : String}
    (short : value.hasShortIntegers = true) (here : value.member? name = some found) :
    found.hasShortIntegers = true := by
  cases value with
  | obj members =>
      obtain ⟨before, after, same, _⟩ := List.lookup_eq_some_iff.1 here
      have whole : (name, found) ∈ members := by simp [same]
      exact short_of_mem short whole
  | _ => cases here

theorem short_of_given? {value found : Json} {name : String}
    (short : value.hasShortIntegers = true) (here : value.given? name = some found) :
    found.hasShortIntegers = true :=
  short_of_member? short (member?_of_given? here)

theorem short_entries_ends {value : Option Json}
    (short : ∀ found, value = some found → found.hasShortIntegers = true) :
    Ends (fun entries => ∀ entry ∈ entries, entry.2.hasShortIntegers = true) (fun _ => True)
      (entries value) := by
  refine (entries_ends value).mono (fun entries places entry present => ?_) fun _ _ => trivial
  obtain ⟨members, same, inside⟩ := places entry present
  exact short_of_mem (short _ same) inside

theorem short_required_ends {value : Json} (short : value.hasShortIntegers = true)
    (name : String) :
    Ends (fun found => found.hasShortIntegers = true) (fun _ => True) (value.required name) := by
  cases value with
  | obj members =>
      cases here : members.lookup name with
      | none =>
          simp only [required, here]
          exact trivial
      | some found =>
          simp only [required, here]
          exact short_of_member? short here
  | _ => exact trivial

theorem short_fields_ends {value : Json} (short : value.hasShortIntegers = true) :
    Ends (fun entries => ∀ entry ∈ entries, entry.2.hasShortIntegers = true) (fun _ => True)
      value.fields := by
  cases value with
  | obj members =>
      exact Ends.ok fun entry present => short_of_mem short (mem_of_mem_distinctMembers present)
  | _ => exact trivial

end Json

/-! ## Bounds -/

/-- Both bounds can be written. -/
def Arg.HasShortBounds (arg : Arg) : Prop :=
  ∀ bound ∈ arg.minimum.toList ++ arg.maximum.toList, bound.hasShortIntegers = true

theorem Arg.ofJson_short {name : String} {payload : Json}
    (short : payload.hasShortIntegers = true) :
    Ends Arg.HasShortBounds (fun _ => True) (Arg.ofJson name payload) := by
  refine Ends.bind (Ends.any _) fun _ _ => Ends.ok fun bound present => ?_
  simp only [List.mem_append, Option.mem_toList] at present
  rcases present with low | high
  · exact Json.short_of_given? short low
  · exact Json.short_of_given? short high

theorem Command.ofJson_short {name : String} {payload : Json}
    (short : payload.hasShortIntegers = true) :
    Ends (fun command => ∀ arg ∈ command.args, arg.HasShortBounds) (fun _ => True)
      (Command.ofJson name payload) := by
  refine Ends.bind (Ends.any _) fun _ _ => ?_
  refine Ends.bind (Json.short_entries_ends fun _ found => Json.short_of_given? short found)
    fun entries each => ?_
  refine Ends.bind (Ends.mapM fun entry present => Arg.ofJson_short (each entry present))
    fun args bounded => ?_
  exact Ends.bind (Ends.any _) fun aliases _ => Ends.ok bounded

theorem Menu.ofJson_short {name : String} {payload : Json}
    (short : payload.hasShortIntegers = true) :
    Ends (fun menu => ∀ command ∈ menu.commands, ∀ arg ∈ command.args, arg.HasShortBounds)
      (fun _ => True) (Menu.ofJson name payload) := by
  refine Ends.bind (Ends.any _) fun _ _ => ?_
  refine Ends.bind (Json.short_entries_ends fun _ found => Json.short_of_given? short found)
    fun entries each => ?_
  refine Ends.bind (Ends.mapM fun entry present => Command.ofJson_short (each entry present))
    fun commands bounded => ?_
  exact Ends.bind (Ends.any _) fun splash _ => Ends.ok bounded

theorem Spec.ofJson_short {payload : Json} {source : String}
    (short : payload.hasShortIntegers = true) :
    Ends (fun spec => ∀ menu ∈ spec.menus, ∀ command ∈ menu.commands, ∀ arg ∈ command.args,
      arg.HasShortBounds) (fun _ => True) (Spec.ofJson payload source) := by
  refine Ends.bind (Ends.any _) fun _ _ => ?_
  refine Ends.bind (Ends.any _) fun auth _ => ?_
  refine Ends.bind (Ends.any _) fun title _ => ?_
  refine Ends.bind (Ends.any _) fun uri _ => ?_
  refine Ends.bind (Ends.any _) fun mainMenu _ => ?_
  refine Ends.bind (Json.short_required_ends short "menus") fun described inside => ?_
  refine Ends.bind (Json.short_fields_ends inside) fun entries each => ?_
  refine Ends.bind (Ends.mapM fun entry present => Menu.ofJson_short (each entry present))
    fun menus bounded => ?_
  refine Ends.bind (Ends.any _) fun problems _ => ?_
  split
  · exact Ends.ok bounded
  · exact trivial

/-! ## Documents -/

/-- No numeral of the document is beyond the limit, and the levels leave room for one more. -/
structure Json.WithinDigits (payload : Json) : Prop where
  integers : payload.hasShortIntegers = true
  levels : ∀ key ∈ payload.levelKeys, key.length < Text.mostDigits

theorem Json.WithinDigits.not_longLevel {payload : Json} (within : payload.WithinDigits)
    {error : Error} : ¬ LongLevel payload.levelKeys error := by
  rintro ⟨key, present, long, _⟩
  exact absurd (within.levels key present) (by omega)

/-- The bound that the built-in authentication command sets. -/
theorem Json.WithinDigits.short_highest {payload : Json} (within : payload.WithinDigits)
    {table : AuthTable} (typed : ∀ method ∈ table.methods, method.Typed)
    (fits : ∀ method ∈ table.methods, method.FitsKey payload.levelKeys) :
    (Json.int (table.levels.max?.getD 0 + 1)).hasShortIntegers = true := by
  obtain ⟨fewer, most⟩ : ∃ fewer, Text.mostDigits = fewer + 1 := ⟨_, rfl⟩
  have small : ∀ level ∈ table.levels, 1 ≤ level ∧ level < Nat.pow 10 fewer := by
    intro level present
    obtain ⟨method, inside, rfl⟩ := List.mem_map.1 present
    obtain ⟨key, listed, below⟩ := fits method inside
    have shorter := within.levels key listed
    have power : Nat.pow 10 key.length ≤ Nat.pow 10 fewer :=
      Nat.pow_le_pow_right (by decide) (by omega)
    exact ⟨(typed method inside).level, by omega⟩
  have positive : 0 < Nat.pow 10 fewer := Nat.pow_pos (by decide)
  have room : Nat.pow 10 Text.mostDigits = Nat.pow 10 fewer * 10 := by
    rw [most]
    rfl
  simp only [hasShortIntegers, isShortInteger, decide_eq_true_eq, room]
  cases highest : table.levels.max? with
  | none =>
      simp only [Option.getD_none]
      omega
  | some level =>
      obtain ⟨low, high⟩ := small level (List.max?_mem highest)
      simp only [Option.getD_some]
      omega

end ShellMenu
