import ShellMenu.Proofs.Plan.Table
import ShellMenu.Proofs.Spec.Digits
import ShellMenu.Plan.Basic

/-
  What the commands of a menu have to be like for scripts to be written from them, and that a
  menu of an accepted document and the built-in commands are like that.
-/

namespace ShellMenu

structure Arg.Writable (arg : Arg) : Prop where
  fallback : ∀ value, arg.fallback = some value → value.isKey = true
  prompting : arg.promptIsText = true
  bounds : arg.HasShortBounds

structure Command.Writable (command : Command) : Prop where
  aliases : ∀ name ∈ command.aliases, ∃ text, name = .str text
  args : ∀ arg ∈ command.args, arg.Writable
  script : ∀ name, command.script = some name → name.isKey = true

structure Menu.Writable (levels : List Int) (menu : Menu) : Prop where
  header : ∀ header, menu.header = some header → ∃ text, header = .str text
  lead : ∃ text, menu.lead = .str text
  splash : ∀ splash, menu.splash = some splash → splash.Typed
  table : ∀ command ∈ Table.ofMenu menu levels, command.Writable

/-! ## Accepted documents -/

theorem Arg.Typed.writable {arg : Arg} (typed : arg.Typed) (short : arg.HasShortBounds) :
    arg.Writable := by
  refine ⟨fun value found => ?_, ?_, short⟩
  · have scalar := typed.fallback value found
    cases value with
    | arr items => cases scalar
    | obj members => cases scalar
    | _ => rfl
  · cases asked : arg.promptMessage with
    | none => simp only [promptIsText, asked]
    | some message =>
        obtain ⟨text, rfl⟩ := typed.prompting message asked
        simp only [promptIsText, asked]
        rfl

theorem Command.Typed.writable {command : Command} (typed : command.Typed)
    (short : ∀ arg ∈ command.args, arg.HasShortBounds) : command.Writable := by
  refine ⟨fun name present => ?_, fun arg present => ?_, fun name found => ?_⟩
  · obtain ⟨text, same, _⟩ := typed.aliases name present
    exact ⟨text, same⟩
  · exact (typed.args arg present).writable (short arg present)
  · obtain ⟨text, rfl, _⟩ := typed.script name found
    rfl

theorem Table.writable_of_mem_builtins {command : Command} {menu : String} {levels : List Int}
    (short : (Json.int (levels.max?.getD 0 + 1)).hasShortIntegers = true)
    (present : command ∈ builtins menu levels) : command.Writable := by
  rw [builtins_eq_append, List.mem_append, List.mem_singleton] at present
  rcases present with called | rfl
  · rcases eq_of_mem_named called with rfl | rfl | rfl | rfl
    · exact ⟨by simp [clear], by simp [clear], by simp [clear]⟩
    · exact ⟨by simp [exit], by simp [exit], by simp [exit]⟩
    · exact ⟨by simp [help], by simp [help], by simp [help]⟩
    · refine ⟨by simp [auth], fun arg only => ?_, by simp [auth]⟩
      rw [List.mem_singleton.1 only]
      refine ⟨by simp, rfl, fun bound present => ?_⟩
      simp only [Option.toList_some, List.cons_append, List.nil_append, List.mem_cons,
        List.not_mem_nil, or_false] at present
      rcases present with rfl | rfl
      · decide +kernel
      · exact short
  · exact ⟨by simp [catchAll], by simp [catchAll], by simp [catchAll]⟩

theorem Menu.Typed.writable {levels : List Int} {menu : Menu} (typed : menu.Typed)
    (short : ∀ command ∈ menu.commands, ∀ arg ∈ command.args, arg.HasShortBounds)
    (room : (Json.int (levels.max?.getD 0 + 1)).hasShortIntegers = true) :
    menu.Writable levels := by
  refine ⟨typed.header, typed.lead, typed.splash, fun command present => ?_⟩
  rcases Table.mem_ofMenu present with declared | builtin
  · exact (typed.commands command declared).writable (short command declared)
  · exact Table.writable_of_mem_builtins room builtin

end ShellMenu
