import ShellMenu.Plan.Basic

/-
  The table of a menu holds nothing but declared and built-in commands, and unless a declared
  command takes the name of the catch-all, that one comes last and alone.
-/

namespace ShellMenu

namespace Table

theorem mem_put {command found : Command} {table : List Command}
    (present : found ∈ put command table) : found = command ∨ found ∈ table := by
  induction table with
  | nil => exact Or.inl (List.mem_singleton.1 present)
  | cons other rest ih =>
      simp only [put] at present
      split at present
      · rcases List.mem_cons.1 present with same | later
        · exact Or.inl same
        · exact Or.inr (List.mem_cons_of_mem other later)
      · rcases List.mem_cons.1 present with same | later
        · exact Or.inr (same ▸ List.mem_cons_self)
        · exact (ih later).imp_right (List.mem_cons_of_mem other)

theorem mem_foldl_put {found : Command} {commands table : List Command}
    (present : found ∈ commands.foldl (fun table command => put command table) table) :
    found ∈ table ∨ found ∈ commands := by
  induction commands generalizing table with
  | nil => exact Or.inl present
  | cons command rest ih =>
      rcases ih present with before | later
      · rcases mem_put before with same | inside
        · exact Or.inr (same ▸ List.mem_cons_self)
        · exact Or.inl inside
      · exact Or.inr (List.mem_cons_of_mem command later)

theorem mem_ofMenu {command : Command} {menu : Menu} {levels : List Int}
    (present : command ∈ ofMenu menu levels) :
    command ∈ menu.commands ∨ command ∈ builtins menu.name levels :=
  mem_foldl_put present

/-- The built-in commands that are called by a name. -/
def named (menu : String) (levels : List Int) : List Command :=
  [clear, exit, help menu] ++ (if levels.isEmpty then [] else [auth levels])

theorem builtins_eq_append (menu : String) (levels : List Int) :
    builtins menu levels = named menu levels ++ [catchAll] := rfl

theorem eq_of_mem_named {command : Command} {menu : String} {levels : List Int}
    (present : command ∈ named menu levels) :
    command = clear ∨ command = exit ∨ command = help menu ∨ command = auth levels := by
  simp only [named, List.mem_append, List.mem_cons, List.not_mem_nil, or_false] at present
  rcases present with (same | same | same) | authenticates
  · exact Or.inl same
  · exact Or.inr (Or.inl same)
  · exact Or.inr (Or.inr (Or.inl same))
  · split at authenticates
    · cases authenticates
    · exact Or.inr (Or.inr (Or.inr (List.mem_singleton.1 authenticates)))

/-- Built-in commands ask for no level, run no script and are never hidden. -/
theorem plain_of_mem_builtins {command : Command} {menu : String} {levels : List Int}
    (present : command ∈ builtins menu levels) :
    command.builtin ≠ none ∧ command.access = none ∧ command.script = none
      ∧ command.visible = none := by
  rw [builtins_eq_append, List.mem_append, List.mem_singleton] at present
  rcases present with called | rfl
  · rcases eq_of_mem_named called with rfl | rfl | rfl | rfl
    · simp [clear]
    · simp [exit]
    · simp [help]
    · simp [auth]
  · simp [catchAll]

theorem argNames_of_mem_builtins {command : Command} {menu : String} {levels : List Int}
    (present : command ∈ builtins menu levels) :
    command.args.map Arg.name = [] ∨ command.args.map Arg.name = ["level"] := by
  rw [builtins_eq_append, List.mem_append, List.mem_singleton] at present
  rcases present with called | rfl
  · rcases eq_of_mem_named called with rfl | rfl | rfl | rfl
    · exact Or.inl rfl
    · exact Or.inl rfl
    · exact Or.inl rfl
    · exact Or.inr rfl
  · exact Or.inl rfl

/-- What asks for a level was declared. -/
theorem mem_commands_of_access {command : Command} {menu : Menu} {levels : List Int} {access : Json}
    (present : command ∈ ofMenu menu levels) (asked : command.access = some access) :
    command ∈ menu.commands := by
  refine (mem_ofMenu present).resolve_right fun builtin => ?_
  rw [(plain_of_mem_builtins builtin).2.1] at asked
  cases asked

theorem put_eq_append {command : Command} {table : List Command}
    (absent : ∀ other ∈ table, other.name ≠ command.name) :
    put command table = table ++ [command] := by
  induction table with
  | nil => rfl
  | cons other rest ih =>
      rw [put, if_neg (absent other List.mem_cons_self),
        ih fun later present => absent later (List.mem_cons_of_mem other present)]
      rfl

/-- Without a declared command of its name, the catch-all ends the table. -/
theorem exists_ofMenu_eq_append {menu : Menu} (levels : List Int)
    (free : ∀ command ∈ menu.commands, command.name ≠ "*") :
    ∃ front, ofMenu menu levels = front ++ [catchAll] ∧
      ∀ command ∈ front, command ∈ menu.commands ∨ command ∈ named menu.name levels := by
  refine ⟨(named menu.name levels).foldl (fun table command => put command table) menu.commands,
    ?_, fun command present => mem_foldl_put present⟩
  rw [ofMenu, builtins_eq_append, List.foldl_append, List.foldl_cons, List.foldl_nil]
  refine put_eq_append fun other present => ?_
  rcases mem_foldl_put present with declared | called
  · exact free other declared
  · rcases eq_of_mem_named called with rfl | rfl | rfl | rfl <;>
      simp [clear, exit, help, auth, catchAll]

end Table

theorem MenuPlan.mem_commands {menu : Menu} {levels : List Int} {dialect : Dialect}
    {fragments : Fragments} {planned : PlannedCommand}
    (present : planned ∈ (MenuPlan.ofMenu menu levels dialect fragments).commands) :
    planned.command ∈ Table.ofMenu menu levels ∧
      planned.body = planned.command.resolve dialect fragments := by
  obtain ⟨command, inside, rfl⟩ := List.mem_map.1 present
  exact ⟨inside, rfl⟩

end ShellMenu
