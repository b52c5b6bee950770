import Mathlib.Data.List.Perm.Basic
import ShellMenu.Artifact
import ShellMenu.Proofs.Number.Text
import ShellMenu.Proofs.Spec.Demo
import ShellMenu.Proofs.Spec.Names
import ShellMenu.Schema.Description

/-
  The names of the routines of a script. Most kinds of routine have a stem of their own; only the
  name of a menu, which is taken as it is, and those of two fragments can meet.
-/

namespace ShellMenu

/-! ## Stems -/

/-- Neither text starts with the other, so nothing starts with both. -/
def StemsApart (left right : String) : Prop :=
  Text.startsWith left right = false ∧ Text.startsWith right left = false

instance : DecidableRel StemsApart :=
  fun _ _ => inferInstanceAs (Decidable (_ ∧ _))

theorem startsWith_iff {text start : String} :
    Text.startsWith text start = true ↔ start.toList <+: text.toList :=
  List.isPrefixOf_iff_prefix

theorem startsWith_append (start rest : String) : Text.startsWith (start ++ rest) start = true := by
  rw [startsWith_iff, String.toList_append]
  exact List.prefix_append _ _

theorem StemsApart.not_both {left right name : String} (apart : StemsApart left right)
    (first : Text.startsWith name left = true) (second : Text.startsWith name right = true) :
    False := by
  rw [startsWith_iff] at first second
  rcases List.prefix_or_prefix_of_prefix first second with before | after
  · exact Bool.false_ne_true (apart.2.symm.trans (startsWith_iff.2 before))
  · exact Bool.false_ne_true (apart.1.symm.trans (startsWith_iff.2 after))

theorem nodup_map_append (stem : String) {names : List String} (apart : names.Nodup) :
    (names.map (stem ++ ·)).Nodup :=
  apart.map fun _ _ same => (String.append_right_inj stem).1 same

/-! ## Names -/

namespace Spec

variable (spec : Spec) (dialect : Dialect) (fragments : Fragments)

def levelNames : List String :=
  spec.levels.map fun level => "auth_" ++ toString level

def fragmentNames : List String :=
  (spec.fragmentCommands dialect fragments).map fun pair => fragmentRoutine pair.1 pair.2

/-- In the order of the script. -/
def routineNames : List String :=
  "error" :: spec.levelNames ++ spec.fragmentNames dialect fragments
    ++ spec.menuNames.flatMap fun menu => ["process_" ++ menu, "prompt_" ++ menu, menu]

/-- The routines that serve the menus, by the stems of their names. -/
def families : List (String × List String) := [
  ("error", ["error"]),
  ("auth_", spec.levelNames),
  ("fragment_", spec.fragmentNames dialect fragments),
  ("process_", spec.menuNames.map ("process_" ++ ·)),
  ("prompt_", spec.menuNames.map ("prompt_" ++ ·))]

theorem routineNames_perm :
    (spec.routineNames dialect fragments).Perm
      ((spec.families dialect fragments).flatMap Prod.snd ++ spec.menuNames) := by
  have menus : (spec.menuNames.flatMap fun menu =>
      ["process_" ++ menu, "prompt_" ++ menu, menu]).Perm
      (spec.menuNames.map ("process_" ++ ·)
        ++ (spec.menuNames.map ("prompt_" ++ ·) ++ spec.menuNames)) := by
    refine (List.map_append_flatMap_perm _ _ _).symm.trans (List.Perm.append_left _ ?_)
    refine (List.map_append_flatMap_perm _ _ _).symm.trans (List.Perm.append_left _ ?_)
    rw [List.flatMap_singleton']
  have whole := List.Perm.append_left ("error" :: spec.levelNames
    ++ spec.fragmentNames dialect fragments) menus
  simpa [routineNames, families] using whole

theorem nodup_levelNames : spec.levelNames.Nodup := by
  have ascending : spec.levels.Nodup :=
    (List.pairwise_map.2 spec.auth.ascending).imp fun below => Int.ne_of_lt below
  refine ascending.map fun level other same => ?_
  exact eq_of_toString_int_eq ((String.append_right_inj "auth_").1 same)

variable {spec dialect fragments}

theorem startsWith_of_mem_families {family : String × List String}
    (present : family ∈ spec.families dialect fragments) {name : String} (named : name ∈ family.2) :
    Text.startsWith name family.1 = true := by
  simp only [families, List.mem_cons, List.not_mem_nil, or_false] at present
  rcases present with rfl | rfl | rfl | rfl | rfl
  · cases List.mem_singleton.1 named
    decide
  · obtain ⟨level, _, rfl⟩ := List.mem_map.1 named
    exact startsWith_append _ _
  · obtain ⟨pair, _, rfl⟩ := List.mem_map.1 named
    simp only [fragmentRoutine, toString, String.append_assoc]
    exact startsWith_append _ _
  · obtain ⟨menu, _, rfl⟩ := List.mem_map.1 named
    exact startsWith_append _ _
  · obtain ⟨menu, _, rfl⟩ := List.mem_map.1 named
    exact startsWith_append _ _

/-- Each kind has a stem of its own, so that only fragments can meet. -/
theorem nodup_families_iff (apart : spec.menuNames.Nodup) :
    ((spec.families dialect fragments).flatMap Prod.snd).Nodup ↔
      (spec.fragmentNames dialect fragments).Nodup := by
  have stems : (spec.families dialect fragments).Pairwise (StemsApart ·.1 ·.1) := by
    have listed : ["error", "auth_", "fragment_", "process_", "prompt_"].Pairwise StemsApart := by
      decide
    exact List.pairwise_map.1 (show ((spec.families dialect fragments).map Prod.fst).Pairwise
      StemsApart from listed)
  rw [List.nodup_flatMap]
  constructor
  · rintro ⟨each, _⟩
    exact each ("fragment_", spec.fragmentNames dialect fragments) (by simp [families])
  · intro named
    constructor
    · simp only [families, List.forall_mem_cons, List.not_mem_nil, false_imp_iff, implies_true,
        and_true]
      exact ⟨List.nodup_singleton _, spec.nodup_levelNames, named, nodup_map_append _ apart,
        nodup_map_append _ apart⟩
    · refine stems.imp_of_mem fun left right differ name inLeft inRight => ?_
      exact differ.not_both (startsWith_of_mem_families left inLeft)
        (startsWith_of_mem_families right inRight)

theorem forall_families {holds : String → Prop} :
    (∀ name ∈ (spec.families dialect fragments).flatMap Prod.snd, holds name) ↔
      holds "error" ∧ (∀ level ∈ spec.levels, holds s!"auth_{level}") ∧
        (∀ pair ∈ spec.fragmentCommands dialect fragments, holds (fragmentRoutine pair.1 pair.2)) ∧
        (∀ menu ∈ spec.menuNames, holds s!"process_{menu}") ∧
        ∀ menu ∈ spec.menuNames, holds s!"prompt_{menu}" := by
  simp only [families, levelNames, fragmentNames, List.flatMap_cons, List.flatMap_nil,
    List.append_nil, List.forall_mem_append, List.forall_mem_singleton, List.forall_mem_map]
  rfl

/-- Where names meet: a menu may be called like a routine that serves the menus, and two commands
may get one fragment routine. -/
structure NamesApart (spec : Spec) (dialect : Dialect) (fragments : Fragments) : Prop where
  error : "error" ∉ spec.menuNames
  levels : ∀ level ∈ spec.levels, s!"auth_{level}" ∉ spec.menuNames
  routines : ∀ pair ∈ spec.fragmentCommands dialect fragments,
    fragmentRoutine pair.1 pair.2 ∉ spec.menuNames
  processes : ∀ menu ∈ spec.menuNames, s!"process_{menu}" ∉ spec.menuNames
  prompts : ∀ menu ∈ spec.menuNames, s!"prompt_{menu}" ∉ spec.menuNames
  fragments : ∀ pair ∈ spec.fragmentCommands dialect fragments,
    ∀ other ∈ spec.fragmentCommands dialect fragments,
      fragmentRoutine pair.1 pair.2 = fragmentRoutine other.1 other.2 → pair = other

theorem nodup_routineNames_iff (apart : spec.TellsApart) :
    (spec.routineNames dialect fragments).Nodup ↔ spec.NamesApart dialect fragments := by
  have told := List.nodup_map_iff_inj_on (f := fun pair : String × String =>
    fragmentRoutine pair.1 pair.2) (apart.nodup_fragmentCommands dialect fragments)
  rw [(routineNames_perm spec dialect fragments).nodup_iff, List.nodup_append',
    nodup_families_iff apart.menus, fragmentNames, told]
  constructor
  · rintro ⟨differ, _, clear⟩
    obtain ⟨error, levels, routines, processes, prompts⟩ := forall_families.1 clear
    exact ⟨error, levels, routines, processes, prompts, differ⟩
  · intro ⟨error, levels, routines, processes, prompts, differ⟩
    exact ⟨differ, apart.menus, forall_families.2 ⟨error, levels, routines, processes, prompts⟩⟩

end Spec

/-! ## Scripts -/

/-- The names as the scripts come to them, level by level and plan by plan. -/
theorem Spec.routineNames_eq (spec : Spec) (dialect : Dialect) (fragments : Fragments) :
    spec.routineNames dialect fragments =
      "error" :: spec.auth.methods.map (fun method => "auth_" ++ toString method.level)
        ++ (spec.plans dialect fragments).flatMap (fun plan =>
          plan.fragments.map fun entry => fragmentRoutine plan.name entry.1.name)
        ++ (spec.plans dialect fragments).flatMap fun plan =>
          ["process_" ++ plan.name, "prompt_" ++ plan.name, plan.name] := by
  have menus : spec.menuNames = (spec.plans dialect fragments).map MenuPlan.name := by
    rw [plans, List.map_map]
    rfl
  simp only [routineNames, levelNames, levels, AuthTable.levels, fragmentNames, fragmentCommands,
    menus, List.map_map, List.map_flatMap, List.flatMap_map, Function.comp_def]

/-- The names of what was made for each plan make up a list that is made from the plans. -/
theorem map_flatten_eq_flatMap {α β γ : Type} {view : β → γ} {expected : α → List γ} {xs : List α}
    {made : List (List β)} (named : made.map (List.map view) = xs.map expected) :
    made.flatten.map view = xs.flatMap expected := by
  rw [List.map_flatten, named, List.flatMap_def]

namespace Bash

theorem authRoutine_name (method : AuthMethod) :
    Ends (fun routine => routine.name = "auth_" ++ toString method.level) (fun _ => True)
      (authRoutine method) := by
  rw [authRoutine, levelRoutine]
  split
  · exact Ends.ok rfl
  · exact trivial

theorem fragmentRoutines_names (fragments : Fragments) (plan : MenuPlan) :
    Ends (fun routines => routines.map Routine.name =
        plan.fragments.map fun entry => fragmentRoutine plan.name entry.1.name) (fun _ => True)
      (fragmentRoutines fragments plan) :=
  Ends.mapM_view fun _ _ => Ends.bind (Ends.any _) fun _ _ => Ends.ok rfl

theorem menuRoutines_names (renderer : Banner.Renderer) (plan : MenuPlan) :
    Ends (fun routines => routines.map Routine.name =
        ["process_" ++ plan.name, "prompt_" ++ plan.name, plan.name]) (fun _ => True)
      (menuRoutines renderer plan) := by
  refine Ends.bind (Ends.any _) fun splash _ => Ends.bind (Ends.any _) fun _ _ => ?_
  exact Ends.ok rfl

theorem script_names (spec : Spec) (fragments : Fragments) (renderer : Banner.Renderer) :
    Ends (fun script => script.routines.map Routine.name = spec.routineNames .bash fragments)
      (fun _ => True) (script spec fragments renderer) := by
  refine Ends.bind (Ends.any _) fun _ _ => ?_
  refine Ends.bind (Ends.mapM_view fun method _ => authRoutine_name method) fun auth levels => ?_
  refine Ends.bind (Ends.mapM_view fun plan _ => fragmentRoutines_names fragments plan)
    fun included texts => ?_
  refine Ends.bind (Ends.mapM_view fun plan _ => menuRoutines_names renderer plan)
    fun menus served => Ends.ok ?_
  rw [Spec.routineNames_eq, ← levels, ← map_flatten_eq_flatMap texts,
    ← map_flatten_eq_flatMap served, List.map_append, List.map_append]
  rfl

end Bash

namespace Batch

theorem authRoutine_name (method : AuthMethod) :
    Ends (fun routine => routine.name = "auth_" ++ toString method.level) (fun _ => True)
      (authRoutine method) := by
  rw [authRoutine, levelRoutine]
  split
  · exact Ends.ok rfl
  · exact trivial

theorem fragmentRoutines_names (fragments : Fragments) (plan : MenuPlan) :
    Ends (fun routines => routines.map Routine.name =
        plan.fragments.map fun entry => fragmentRoutine plan.name entry.1.name) (fun _ => True)
      (fragmentRoutines fragments plan) :=
  Ends.mapM_view fun _ _ => Ends.bind (Ends.any _) fun _ _ => Ends.ok rfl

theorem menuRoutines_names (renderer : Banner.Renderer) (levels : List Int) (plan : MenuPlan) :
    Ends (fun routines => routines.map Routine.name =
        ["process_" ++ plan.name, "prompt_" ++ plan.name, plan.name]) (fun _ => True)
      (menuRoutines renderer levels plan) := by
  have process : Ends (fun routine => routine.name = "process_" ++ plan.name) (fun _ => True)
      (processRoutine plan levels) := Ends.bind (Ends.any _) fun _ _ => Ends.ok rfl
  refine Ends.bind (Ends.any _) fun splash _ => Ends.bind process fun routine named => ?_
  refine Ends.bind (Ends.any _) fun _ _ => Ends.ok ?_
  rw [List.map_cons, named]
  rfl

theorem script_names (spec : Spec) (fragments : Fragments) (renderer : Banner.Renderer) :
    Ends (fun script => script.routines.map Routine.name = spec.routineNames .batch fragments)
      (fun _ => True) (script spec fragments renderer) := by
  refine Ends.bind (Ends.any _) fun _ _ => ?_
  refine Ends.bind (Ends.mapM_view fun method _ => authRoutine_name method) fun auth levels => ?_
  refine Ends.bind (Ends.mapM_view fun plan _ => fragmentRoutines_names fragments plan)
    fun included texts => ?_
  refine Ends.bind (Ends.mapM_view fun plan _ => menuRoutines_names renderer spec.levels plan)
    fun menus served => Ends.ok ?_
  rw [Spec.routineNames_eq, ← levels, ← map_flatten_eq_flatMap texts,
    ← map_flatten_eq_flatMap served, List.map_append, List.map_append]
  rfl

end Batch

/-- A script of a description that was read has the routines one expects, and each has a name of
its own exactly when no menu is called like another routine and no two commands share a fragment
routine. Nothing in the reading of a description keeps names apart in this way. -/
theorem routine_names_distinct_iff (payload : Json) (source : String) (spec : Spec)
    (read : Spec.ofJson payload source = .ok spec) (fragments : Fragments)
    (renderer : Banner.Renderer) :
    (∀ script, Bash.script spec fragments renderer = .ok script →
      script.routines.map Bash.Routine.name = spec.routineNames .bash fragments ∧
      ((script.routines.map Bash.Routine.name).Nodup ↔ spec.NamesApart .bash fragments)) ∧
    ∀ script, Batch.script spec fragments renderer = .ok script →
      (script.routines.map fun routine => s!":func_{routine.name}") =
        (spec.routineNames .batch fragments).map (":func_" ++ ·) ∧
      ((script.routines.map fun routine => s!":func_{routine.name}").Nodup ↔
        spec.NamesApart .batch fragments) := by
  have apart := (Spec.ofJson_distinct payload source).of_eq_ok read
  constructor
  · intro script done
    have names := (Bash.script_names spec fragments renderer).of_eq_ok done
    rw [names]
    exact ⟨rfl, Spec.nodup_routineNames_iff apart⟩
  · intro script done
    have labels : (script.routines.map fun routine => s!":func_{routine.name}") =
        (spec.routineNames .batch fragments).map (":func_" ++ ·) := by
      rw [← (Batch.script_names spec fragments renderer).of_eq_ok done, List.map_map]
      rfl
    rw [labels, ← Spec.nodup_routineNames_iff apart]
    refine ⟨rfl, fun differ => differ.of_map _, nodup_map_append ":func_"⟩

def dashedCommand (name script : String) : Command where
  name := name
  description := "Go."
  script := some (.str script)

def dashedSpec : Spec :=
  demoSpec [dashedCommand "go-x" "a", dashedCommand "go_x" "b"] []

/-- Two commands whose names differ in a character that no routine can have. -/
def dashedDocument : Json :=
  demoDocument [("go-x", .obj [("description", .str "Go."), ("script", .str "a")]),
    ("go_x", .obj [("description", .str "Go."), ("script", .str "b")])] []

theorem dashedDocument_routines_meet :
    Schema.description.violations dashedDocument = [] ∧
    Spec.ofJson dashedDocument "cli.json" = .ok dashedSpec ∧
    (∃ script, Bash.script dashedSpec ⟨"sh", [("a", "ls"), ("b", "pwd")]⟩ Banner.noFonts =
        .ok script ∧
      ¬ (script.routines.map Bash.Routine.name).Nodup) ∧
    ∃ script, Batch.script dashedSpec ⟨"bat", [("a", "dir"), ("b", "cd")]⟩ Banner.noFonts =
        .ok script ∧
      ¬ (script.routines.map fun routine => s!":func_{routine.name}").Nodup := by
  have accepted : Schema.description.violations dashedDocument = [] := by decide +kernel
  have read : Spec.ofJson dashedDocument "cli.json" = .ok dashedSpec := rfl
  have names := routine_names_distinct_iff dashedDocument "cli.json" dashedSpec read
  have meet : ∀ dialect fragments,
      dashedSpec.fragmentCommands dialect fragments = [("main", "go-x"), ("main", "go_x")] →
      ¬ dashedSpec.NamesApart dialect fragments := by
    intro dialect fragments listed apart
    have same := apart.fragments ("main", "go-x") (by simp [listed]) ("main", "go_x")
      (by simp [listed]) (by decide +kernel)
    exact absurd same (by decide)
  refine ⟨accepted, read, ⟨_, rfl, ?_⟩, ⟨_, rfl, ?_⟩⟩
  · exact mt (((names ⟨"sh", [("a", "ls"), ("b", "pwd")]⟩ Banner.noFonts).1 _ rfl).2).1
      (meet .bash _ (by decide +kernel))
  · exact mt (((names ⟨"bat", [("a", "dir"), ("b", "cd")]⟩ Banner.noFonts).2 _ rfl).2).1
      (meet .batch _ (by decide +kernel))

end ShellMenu
