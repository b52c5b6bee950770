import Mathlib.Data.List.Nodup
import ShellMenu.Proofs.Outcome
import ShellMenu.Proofs.Plan.Table
import ShellMenu.Spec.Reader

/-
  Names that are told apart. An object has each name once, and so has what is read from it: the
  menus of a spec, the commands of a menu, the arguments of a command, and the table that the
  built-in commands are put into.
-/

namespace ShellMenu

namespace Json

theorem mem_map_fst_setMember {name other : String} {value : Json}
    {members : List (String × Json)}
    (present : other ∈ (setMember name value members).map Prod.fst) :
    other = name ∨ other ∈ members.map Prod.fst := by
  induction members with
  | nil => exact Or.inl (List.mem_singleton.1 present)
  | cons member rest ih =>
      obtain ⟨first, old⟩ := member
      simp only [setMember] at present
      split at present
      · exact Or.inr present
      · rcases List.mem_cons.1 present with same | later
        · exact Or.inr (same ▸ List.mem_cons_self)
        · exact (ih later).imp_right (List.mem_cons_of_mem first)

theorem nodup_setMember (name : String) (value : Json) {members : List (String × Json)}
    (apart : (members.map Prod.fst).Nodup) :
    ((setMember name value members).map Prod.fst).Nodup := by
  induction members with
  | nil => exact List.nodup_singleton name
  | cons member rest ih =>
      obtain ⟨first, old⟩ := member
      obtain ⟨fresh, restApart⟩ := List.nodup_cons.1 apart
      simp only [setMember]
      split
      · exact apart
      · next differs =>
          refine List.nodup_cons.2 ⟨fun present => ?_, ih restApart⟩
          rcases mem_map_fst_setMember present with same | later
          · exact differs same
          · exact fresh later

theorem nodup_distinctMembers (members : List (String × Json)) :
    ((distinctMembers members).map Prod.fst).Nodup := by
  have kept : ∀ (rest before : List (String × Json)), (before.map Prod.fst).Nodup →
      ((rest.foldl (fun kept member => setMember member.1 member.2 kept) before).map
        Prod.fst).Nodup := by
    intro rest
    induction rest with
    | nil => exact fun _ apart => apart
    | cons member rest ih =>
        exact fun before apart => ih _ (nodup_setMember member.1 member.2 apart)
  exact kept members [] List.nodup_nil

theorem fields_distinct (value : Json) :
    Ends (fun entries => (entries.map Prod.fst).Nodup) (fun _ => True) value.fields := by
  cases value with
  | obj members => exact Ends.ok (nodup_distinctMembers members)
  | _ => exact trivial

theorem entries_distinct (value : Option Json) :
    Ends (fun entries => (entries.map Prod.fst).Nodup) (fun _ => True) (entries value) := by
  cases value with
  | none => exact Ends.ok List.nodup_nil
  | some value =>
      simp only [entries]
      split
      · exact fields_distinct value
      · exact Ends.ok List.nodup_nil

end Json

/-! ## Reading -/

theorem Command.ofJson_name (name : String) (payload : Json) :
    Ends (fun command => command.name = name) (fun _ => True) (Command.ofJson name payload) := by
  refine Ends.bind (Ends.any _) fun _ _ => Ends.bind (Ends.any _) fun _ _ => ?_
  refine Ends.bind (Ends.any _) fun args _ => Ends.bind (Ends.any _) fun aliases _ => ?_
  exact Ends.ok rfl

theorem Menu.ofJson_name (name : String) (payload : Json) :
    Ends (fun menu => menu.name = name) (fun _ => True) (Menu.ofJson name payload) := by
  refine Ends.bind (Ends.any _) fun _ _ => Ends.bind (Ends.any _) fun _ _ => ?_
  refine Ends.bind (Ends.any _) fun commands _ => Ends.bind (Ends.any _) fun splash _ => ?_
  exact Ends.ok rfl

theorem Menu.ofJson_distinct (name : String) (payload : Json) :
    Ends (fun menu => (menu.commands.map Command.name).Nodup) (fun _ => True)
      (Menu.ofJson name payload) := by
  refine Ends.bind (Ends.any _) fun _ _ => ?_
  refine Ends.bind (Json.entries_distinct _) fun entries apart => ?_
  refine Ends.bind (Ends.mapM_view fun entry _ => Command.ofJson_name entry.1 entry.2)
    fun commands named => Ends.bind (Ends.any _) fun splash _ => Ends.ok ?_
  rw [named]
  exact apart

/-- Every menu and, in its menu, every command has a name of its own. -/
structure Spec.TellsApart (spec : Spec) : Prop where
  menus : spec.menuNames.Nodup
  commands : ∀ menu ∈ spec.menus, (menu.commands.map Command.name).Nodup

theorem Spec.ofJson_distinct (payload : Json) (source : String) :
    Ends Spec.TellsApart (fun _ => True) (Spec.ofJson payload source) := by
  refine Ends.bind (Ends.any _) fun _ _ => Ends.bind (Ends.any _) fun auth _ => ?_
  refine Ends.bind (Ends.any _) fun title _ => Ends.bind (Ends.any _) fun uri _ => ?_
  refine Ends.bind (Ends.any _) fun mainMenu _ => Ends.bind (Ends.any _) fun described _ => ?_
  refine Ends.bind (Json.fields_distinct described) fun entries apart => ?_
  have names : Ends (fun menus => menus.map Menu.name = entries.map Prod.fst) (fun _ => True)
      (entries.mapM fun entry => Menu.ofJson entry.1 entry.2) :=
    Ends.mapM_view fun entry _ => Menu.ofJson_name entry.1 entry.2
  refine Ends.bind (names.and (Ends.mapM fun entry _ => Menu.ofJson_distinct entry.1 entry.2))
    fun menus ⟨named, distinct⟩ => ?_
  refine Ends.bind (Ends.any _) fun problems _ => ?_
  split
  · refine Ends.ok ⟨?_, distinct⟩
    rw [menuNames, named]
    exact apart
  · exact trivial

/-- A command of the document is none of the built-in ones, and has each argument once. -/
structure Command.IsWritten (command : Command) : Prop where
  declared : command.builtin = none
  args : (command.args.map Arg.name).Nodup

theorem Arg.ofJson_name (name : String) (payload : Json) :
    Ends (fun arg => arg.name = name) (fun _ => True) (Arg.ofJson name payload) :=
  Ends.bind (Ends.any _) fun _ _ => Ends.ok rfl

theorem Command.ofJson_isWritten (name : String) (payload : Json) :
    Ends Command.IsWritten (fun _ => True) (Command.ofJson name payload) := by
  refine Ends.bind (Ends.any _) fun _ _ => ?_
  refine Ends.bind (Json.entries_distinct _) fun entries apart => ?_
  refine Ends.bind (Ends.mapM_view fun entry _ => Arg.ofJson_name entry.1 entry.2)
    fun args named => Ends.bind (Ends.any _) fun aliases _ => Ends.ok ⟨rfl, ?_⟩
  rw [named]
  exact apart

theorem Menu.ofJson_isWritten (name : String) (payload : Json) :
    Ends (fun menu => ∀ command ∈ menu.commands, command.IsWritten) (fun _ => True)
      (Menu.ofJson name payload) := by
  refine Ends.bind (Ends.any _) fun _ _ => Ends.bind (Ends.any _) fun entries _ => ?_
  refine Ends.bind (Ends.mapM fun entry _ => Command.ofJson_isWritten entry.1 entry.2)
    fun commands written => Ends.bind (Ends.any _) fun splash _ => Ends.ok written

theorem Spec.ofJson_isWritten (payload : Json) (source : String) :
    Ends (fun spec => ∀ menu ∈ spec.menus, ∀ command ∈ menu.commands, command.IsWritten)
      (fun _ => True) (Spec.ofJson payload source) := by
  refine Ends.bind (Ends.any _) fun _ _ => Ends.bind (Ends.any _) fun auth _ => ?_
  refine Ends.bind (Ends.any _) fun title _ => Ends.bind (Ends.any _) fun uri _ => ?_
  refine Ends.bind (Ends.any _) fun mainMenu _ => Ends.bind (Ends.any _) fun described _ => ?_
  refine Ends.bind (Ends.any _) fun entries _ => ?_
  refine Ends.bind (Ends.mapM fun entry _ => Menu.ofJson_isWritten entry.1 entry.2)
    fun menus written => Ends.bind (Ends.any _) fun problems _ => ?_
  split
  · exact Ends.ok written
  · exact trivial

/-! ## Tables -/

namespace Table

theorem nodup_put (command : Command) {table : List Command}
    (apart : (table.map Command.name).Nodup) : ((put command table).map Command.name).Nodup := by
  induction table with
  | nil => exact List.nodup_singleton command.name
  | cons other rest ih =>
      obtain ⟨fresh, restApart⟩ := List.nodup_cons.1 apart
      simp only [put]
      split
      · next same => exact List.nodup_cons.2 ⟨same ▸ fresh, restApart⟩
      · next differs =>
          refine List.nodup_cons.2 ⟨fun present => ?_, ih restApart⟩
          obtain ⟨found, inside, same⟩ := List.mem_map.1 present
          rcases mem_put inside with rfl | later
          · exact differs same.symm
          · exact fresh (same ▸ List.mem_map_of_mem later)

theorem nodup_ofMenu {menu : Menu} (apart : (menu.commands.map Command.name).Nodup)
    (levels : List Int) : ((ofMenu menu levels).map Command.name).Nodup := by
  have kept : ∀ (commands table : List Command), (table.map Command.name).Nodup →
      ((commands.foldl (fun table command => put command table) table).map Command.name).Nodup := by
    intro commands
    induction commands with
    | nil => exact fun _ apart => apart
    | cons command rest ih => exact fun table apart => ih _ (nodup_put command apart)
  exact kept _ _ apart

end Table

/-! ## Fragments -/

/-- The commands that run a fragment, each with its menu. -/
def Spec.fragmentCommands (spec : Spec) (dialect : Dialect) (fragments : Fragments) :
    List (String × String) :=
  (spec.plans dialect fragments).flatMap fun plan =>
    plan.fragments.map fun entry => (plan.name, entry.1.name)

theorem MenuPlan.sublist_fragments (plan : MenuPlan) :
    (plan.fragments.map fun entry => entry.1.name).Sublist
      (plan.commands.map fun planned => planned.command.name) := by
  rw [fragments, List.map_filterMap]
  induction plan.commands with
  | nil => exact List.Sublist.slnil
  | cons planned rest ih =>
      cases body : planned.body with
      | fragment name =>
          rw [List.filterMap_cons_some (by rw [body]; rfl)]
          exact ih.cons_cons _
      | _ =>
          rw [List.filterMap_cons_none (by rw [body]; rfl)]
          exact ih.cons _

theorem Spec.TellsApart.nodup_fragmentCommands {spec : Spec} (apart : spec.TellsApart)
    (dialect : Dialect) (fragments : Fragments) :
    (spec.fragmentCommands dialect fragments).Nodup := by
  rw [fragmentCommands, List.nodup_flatMap]
  constructor
  · intro plan present
    obtain ⟨menu, declared, rfl⟩ := List.mem_map.1 present
    have table := Table.nodup_ofMenu (apart.commands menu declared) spec.levels
    have commands : ((MenuPlan.ofMenu menu spec.levels dialect fragments).commands.map
        fun planned => planned.command.name).Nodup := by
      simpa [MenuPlan.ofMenu, Function.comp_def] using table
    have names := commands.sublist (MenuPlan.sublist_fragments _)
    have pairs := names.map (f := Prod.mk menu.name) fun _ _ same => congrArg Prod.snd same
    rw [List.map_map] at pairs
    exact pairs
  · have plans : ((spec.plans dialect fragments).map MenuPlan.name).Nodup := by
      rw [Spec.plans, List.map_map]
      exact apart.menus
    refine (List.pairwise_map.1 plans).imp fun differ pair inLeft inRight => ?_
    obtain ⟨_, _, rfl⟩ := List.mem_map.1 inLeft
    obtain ⟨_, _, same⟩ := List.mem_map.1 inRight
    exact differ (congrArg Prod.fst same).symm

end ShellMenu
