import ShellMenu.Json.Access
import ShellMenu.Proofs.Outcome
import ShellMenu.Schema.Description

/-
  What a value without problems looks like, for each kind of schema, and what can then be taken
  out of it.
-/

namespace ShellMenu

namespace Schema

def Accepts (schema : Schema) (value : Json) : Prop :=
  schema.problems value = []

attribute [local simp] problems

theorem violations_eq_nil_iff {schema : Schema} {value : Json} :
    schema.violations value = [] ↔ schema.Accepts value := by
  simp [violations, Accepts]

theorem patternProblems_eq_nil_iff {pattern : Pattern} {text : String} :
    patternProblems pattern text = [] ↔ pattern.accepts text = true := by
  simp [patternProblems]

theorem emptyProblems_eq_nil_iff {nonEmpty isEmpty : Bool} {value : Json} :
    emptyProblems nonEmpty isEmpty value = [] ↔ (nonEmpty = true → isEmpty = false) := by
  cases nonEmpty <;> cases isEmpty <;> simp [emptyProblems]

theorem accepts_text_iff {nonEmpty : Bool} {pattern : Option Pattern} {value : Json} :
    (text nonEmpty pattern).Accepts value ↔
      ∃ content, value = .str content ∧ (nonEmpty = true → Text.isEmpty content = false) ∧
        ∀ expected, pattern = some expected → expected.accepts content = true := by
  cases value with
  | str content =>
      cases pattern with
      | none => simp [Accepts, emptyProblems_eq_nil_iff]
      | some expected =>
          simp [Accepts, emptyProblems_eq_nil_iff, patternProblems_eq_nil_iff]
  | _ => simp [Accepts]

theorem accepts_integer_iff {minimum : Option Int} {value : Json} :
    (integer minimum).Accepts value ↔
      isInteger value = true ∧ ∀ bound, minimum = some bound → isBelow bound value = false := by
  cases minimum with
  | none => simp [Accepts, minimumProblems]
  | some bound => simp [Accepts, minimumProblems]

theorem accepts_scalar_iff {value : Json} : scalar.Accepts value ↔ isScalar value = true := by
  simp [Accepts]

theorem accepts_choice_iff {texts : List String} {value : Json} :
    (choice texts).Accepts value ↔ ∃ content ∈ texts, value = .str content := by
  cases value with
  | str content => simp [Accepts]
  | _ => simp [Accepts]

theorem accepts_list_iff {items : Schema} {value : Json} :
    (list items).Accepts value ↔
      ∃ values, value = .arr values ∧ ∀ item ∈ values, items.Accepts item := by
  cases value with
  | arr values =>
      simp only [Accepts, problems, itemProblems, List.flatMap_eq_nil_iff, List.map_eq_nil_iff,
        Json.arr.injEq, exists_eq_left']
      constructor
      · intro none item present
        obtain ⟨index, located⟩ := List.mem_iff_getElem?.1 present
        exact none (item, index) (List.mk_mem_zipIdx_iff_getElem?.2 located)
      · intro each entry present
        exact each entry.1 (List.fst_mem_of_mem_zipIdx present)
  | _ => simp [Accepts]

theorem fieldProblems_eq_nil_iff {fields : List (String × Schema)}
    {members : List (String × Json)} :
    fieldProblems fields members = [] ↔
      ∀ field ∈ fields, ∀ value, members.lookup field.1 = some value → field.2.Accepts value := by
  induction fields with
  | nil => simp [fieldProblems]
  | cons field rest ih =>
      obtain ⟨name, schema⟩ := field
      simp only [fieldProblems, List.append_eq_nil_iff, ih, List.mem_cons, forall_eq_or_imp]
      refine and_congr_left' ?_
      cases members.lookup name with
      | none => simp
      | some value => simp [Accepts]

theorem unexpectedProblems_eq_nil_iff {fields : List String} {members : List (String × Json)} :
    unexpectedProblems fields members = [] ↔ ∀ member ∈ members, member.1 ∈ fields := by
  have names : Text.sortTexts ((members.map Prod.fst).filter fun name => !fields.contains name) = []
      ↔ ∀ member ∈ members, member.1 ∈ fields := by
    simp [Text.sortTexts]
  rw [← names, unexpectedProblems]
  split
  · next none => exact iff_of_true rfl none
  · next none =>
      constructor
      · intro empty
        cases empty
      · intro empty
        exact absurd empty none

theorem missingProblems_eq_nil_iff {required : List String} {members : List (String × Json)} :
    missingProblems required members = [] ↔
      ∀ name ∈ required, ∃ value, members.lookup name = some value := by
  simp only [missingProblems, List.map_eq_nil_iff, List.filter_eq_nil_iff,
    Option.isNone_iff_eq_none, ← ne_eq, Option.ne_none_iff_exists']

/-- Every member is declared, every required one is there, and the declared ones fit. -/
theorem accepts_record_iff {required : List String} {fields : List (String × Schema)}
    {value : Json} :
    (record required fields).Accepts value ↔
      ∃ members, value = .obj members ∧ (∀ member ∈ members, member.1 ∈ fields.map Prod.fst) ∧
        (∀ name ∈ required, ∃ found, members.lookup name = some found) ∧
        ∀ field ∈ fields, ∀ found, members.lookup field.1 = some found → field.2.Accepts found := by
  cases value with
  | obj members =>
      simp only [Accepts, problems, List.append_eq_nil_iff, unexpectedProblems_eq_nil_iff,
        missingProblems_eq_nil_iff, fieldProblems_eq_nil_iff, Json.obj.injEq, exists_eq_left',
        and_assoc]
  | _ => simp [Accepts]

theorem accepts_map_iff {nonEmpty : Bool} {names : Pattern} {values : Schema} {value : Json} :
    (map nonEmpty names values).Accepts value ↔
      ∃ members, value = .obj members ∧ (nonEmpty = true → members ≠ []) ∧
        ∀ member ∈ members, names.accepts member.1 = true ∧ values.Accepts member.2 := by
  cases value with
  | obj members =>
      simp only [Accepts, problems, List.append_eq_nil_iff, emptyProblems_eq_nil_iff,
        memberProblems, List.flatMap_eq_nil_iff, List.map_eq_nil_iff, List.mem_map,
        patternProblems_eq_nil_iff, Json.obj.injEq, exists_eq_left', List.isEmpty_eq_false_iff]
      constructor
      · rintro ⟨⟨some, matching⟩, fitting⟩
        exact ⟨some, fun member present => ⟨matching member.1 ⟨member, present, rfl⟩,
          fitting member present⟩⟩
      · rintro ⟨some, each⟩
        refine ⟨⟨some, ?_⟩, fun member present => (each member present).2⟩
        rintro name ⟨member, present, rfl⟩
        exact (each member present).1
  | _ => simp [Accepts]

theorem fitsOne_eq_true_iff {alternatives : List Schema} {value : Json} :
    fitsOne alternatives value = true ↔ ∃ schema ∈ alternatives, schema.Accepts value := by
  induction alternatives with
  | nil => simp [fitsOne]
  | cons schema rest ih => simp [fitsOne, ih, Accepts]

theorem accepts_either_iff {alternatives : List Schema} {value : Json} :
    (either alternatives).Accepts value ↔ ∃ schema ∈ alternatives, schema.Accepts value := by
  rw [← fitsOne_eq_true_iff]
  simp [Accepts]

theorem accepts_named_iff {name : String} {target : Schema} {value : Json} :
    (named name target).Accepts value ↔ target.Accepts value := by
  simp [Accepts]

theorem accepts_described_iff {schema : Schema} {description : String} {value : Json} :
    (described schema description).Accepts value ↔ schema.Accepts value := by
  simp [Accepts]

end Schema

/-! ## Taking accepted values apart -/

namespace Json

theorem mem_setMember {name : String} {value : Json} {member : String × Json}
    {members : List (String × Json)} (present : member ∈ setMember name value members) :
    member = (name, value) ∨ member ∈ members := by
  induction members with
  | nil => simpa [setMember] using present
  | cons head rest ih =>
      obtain ⟨other, old⟩ := head
      simp only [setMember] at present
      split at present
      · next same =>
          subst same
          rcases List.mem_cons.1 present with replaced | later
          · exact Or.inl replaced
          · exact Or.inr (List.mem_cons_of_mem _ later)
      · rcases List.mem_cons.1 present with kept | later
        · exact Or.inr (kept ▸ List.mem_cons_self)
        · exact (ih later).imp_right (List.mem_cons_of_mem _)

theorem mem_of_mem_distinctMembers {member : String × Json} {members : List (String × Json)}
    (present : member ∈ distinctMembers members) : member ∈ members := by
  have kept : ∀ (rest passed kept : List (String × Json)), (∀ m ∈ kept, m ∈ passed ++ rest) →
      ∀ m ∈ rest.foldl (fun kept member => setMember member.1 member.2 kept) kept,
        m ∈ passed ++ rest := by
    intro rest
    induction rest with
    | nil => exact fun _ _ inside => inside
    | cons next rest ih =>
        intro passed kept inside m found
        have step := ih (passed ++ [next]) (setMember next.1 next.2 kept)
        simp only [List.append_assoc, List.singleton_append] at step
        refine step (fun m' present => ?_) m found
        rcases mem_setMember present with same | before
        · exact same ▸ List.mem_append_right _ List.mem_cons_self
        · exact inside m' before
  simpa using kept members [] [] (by simp) member present

theorem member?_of_given? {value found : Json} {name : String}
    (given : value.given? name = some found) : value.member? name = some found := by
  unfold given? at given
  split at given
  · cases given
  · exact given

/-- An entry comes from the object it was read from, whatever the object holds besides. -/
theorem entries_ends (value : Option Json) :
    Ends (fun entries => ∀ entry ∈ entries, ∃ members, value = some (.obj members) ∧
      entry ∈ members) (fun _ => True) (entries value) := by
  cases value with
  | none => exact Ends.ok (by simp)
  | some value =>
      show Ends _ _ (if value.isSomething then value.fields else .ok [])
      split
      · cases value with
        | obj members =>
            exact Ends.ok fun entry present => ⟨members, rfl, mem_of_mem_distinctMembers present⟩
        | _ => exact trivial
      · exact Ends.ok (by simp)

end Json

namespace Schema.Accepts

variable {required : List String} {fields : List (String × Schema)} {payload value : Json}
  {name : String} {schema : Schema}

theorem member (accepted : (record required fields).Accepts payload)
    (declared : (name, schema) ∈ fields) (found : payload.member? name = some value) :
    schema.Accepts value := by
  obtain ⟨members, rfl, _, _, fitting⟩ := accepts_record_iff.1 accepted
  exact fitting (name, schema) declared value found

theorem given (accepted : (record required fields).Accepts payload)
    (declared : (name, schema) ∈ fields) (found : payload.given? name = some value) :
    schema.Accepts value :=
  accepted.member declared (Json.member?_of_given? found)

theorem fields_ends (accepted : (record required fields).Accepts payload) :
    Ends (fun _ => True) Never payload.fields := by
  obtain ⟨members, rfl, _⟩ := accepts_record_iff.1 accepted
  exact trivial

theorem required_ends (accepted : (record required fields).Accepts payload)
    (needed : name ∈ required) (declared : (name, schema) ∈ fields) :
    Ends schema.Accepts Never (payload.required name) := by
  obtain ⟨members, rfl, _, present, fitting⟩ := accepts_record_iff.1 accepted
  obtain ⟨value, found⟩ := present name needed
  have taken : (Json.obj members).required name = .ok value := by
    simp only [Json.required, found]
  rw [taken]
  exact fitting (name, schema) declared value found

theorem exists_str {nonEmpty : Bool} {pattern : Option Pattern}
    (accepted : (text nonEmpty pattern).Accepts value) : ∃ content, value = .str content := by
  obtain ⟨content, same, _⟩ := accepts_text_iff.1 accepted
  exact ⟨content, same⟩

/-- The entries of an object with free names; nothing stands for the empty one. -/
theorem entries_ends {nonEmpty : Bool} {names : Pattern} {value : Option Json}
    (accepted : ∀ found, value = some found → (map nonEmpty names schema).Accepts found) :
    Ends (fun entries => ∀ entry ∈ entries, names.accepts entry.1 = true ∧ schema.Accepts entry.2)
      Never (Json.entries value) := by
  cases value with
  | none => exact Ends.ok (by simp)
  | some found =>
      obtain ⟨members, rfl, _, each⟩ := accepts_map_iff.1 (accepted found rfl)
      show Ends _ _ (if (Json.obj members).isSomething then (Json.obj members).fields else .ok [])
      split
      · exact Ends.ok fun entry present => each entry (Json.mem_of_mem_distinctMembers present)
      · exact Ends.ok (by simp)

end Schema.Accepts

/-! ## Problems by their place -/

namespace Schema

theorem exists_of_mem_fieldProblems {fields : List (String × Schema)}
    {members : List (String × Json)} {problem : Problem}
    (found : problem ∈ fieldProblems fields members) :
    ∃ field ∈ fields, ∃ value, members.lookup field.1 = some value ∧
      ∃ deeper ∈ field.2.problems value, problem = deeper.under (.member field.1) := by
  induction fields with
  | nil => cases found
  | cons field rest ih =>
      rw [fieldProblems] at found
      rcases List.mem_append.1 found with first | later
      · split at first
        · next value present =>
            obtain ⟨deeper, inside, rfl⟩ := List.mem_map.1 first
            exact ⟨field, List.mem_cons_self, value, present, deeper, inside, rfl⟩
        · cases first
      · obtain ⟨other, listed, rest⟩ := ih later
        exact ⟨other, List.mem_cons_of_mem _ listed, rest⟩

/-- A problem below a member of a record is one of the value there. -/
theorem exists_below_record {required : List String} {fields : List (String × Schema)}
    {members : List (String × Json)} {problem : Problem} {name : String} {path : List Step}
    (found : problem ∈ (record required fields).problems (.obj members))
    (below : problem.path = .member name :: path) :
    ∃ schema value, (name, schema) ∈ fields ∧ members.lookup name = some value ∧
      ∃ deeper ∈ schema.problems value, deeper.path = path := by
  rw [problems] at found
  rcases List.mem_append.1 found with own | inside
  · rcases List.mem_append.1 own with extra | missing
    · unfold unexpectedProblems at extra
      split at extra
      · cases extra
      · cases List.mem_singleton.1 extra
        cases below
    · obtain ⟨other, _, rfl⟩ := List.mem_map.1 missing
      cases below
  · obtain ⟨⟨other, schema⟩, declared, value, present, deeper, listed, rfl⟩ :=
      exists_of_mem_fieldProblems inside
    cases below
    exact ⟨schema, value, declared, present, deeper, listed, rfl⟩

/-- A problem below a member of an object with free names is one of the value there. -/
theorem exists_below_map {nonEmpty : Bool} {names : Pattern} {values : Schema}
    {members : List (String × Json)} {problem : Problem} {name : String} {path : List Step}
    (found : problem ∈ (map nonEmpty names values).problems (.obj members))
    (below : problem.path = .member name :: path) :
    ∃ value, (name, value) ∈ members ∧ ∃ deeper ∈ values.problems value, deeper.path = path := by
  rw [problems] at found
  rcases List.mem_append.1 found with own | inside
  · rcases List.mem_append.1 own with empty | unnamed
    · unfold emptyProblems at empty
      split at empty
      · cases List.mem_singleton.1 empty
        cases below
      · cases empty
    · obtain ⟨other, _, mismatch⟩ := List.mem_flatMap.1 unnamed
      unfold patternProblems at mismatch
      split at mismatch
      · cases mismatch
      · cases List.mem_singleton.1 mismatch
        cases below
  · obtain ⟨⟨other, value⟩, listed, under⟩ := List.mem_flatMap.1 inside
    obtain ⟨deeper, inner, rfl⟩ := List.mem_map.1 under
    cases below
    exact ⟨value, listed, deeper, inner, rfl⟩

end Schema

end ShellMenu
