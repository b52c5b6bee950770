import ShellMenu.Proofs.Number.Text
import ShellMenu.Proofs.Plan.Table
import ShellMenu.Proofs.Spec.Typed
import ShellMenu.Proofs.Text.Escaping
import ShellMenu.Proofs.Text.Reading

/-
  Texts without a line feed. What a description puts into the lines of a script stays on its line
  if it has none; the numbers and the built-in commands never have one.
-/

namespace ShellMenu

namespace Text

abbrev IsUnbroken (text : String) : Prop :=
  '\n' ∉ text.toList

theorem IsUnbroken.append {left right : String} (first : IsUnbroken left)
    (second : IsUnbroken right) : IsUnbroken (left ++ right) := by
  rw [IsUnbroken, String.toList_append, List.mem_append, not_or]
  exact ⟨first, second⟩

theorem isUnbroken_toString_nat (value : Nat) : IsUnbroken (toString value) :=
  (numeral_toString value).apart (by simp [IsNumeral])

theorem isUnbroken_toString_int (value : Int) : IsUnbroken (toString value) :=
  (numeral_toString_int value).apart (by simp [IsNumeral])

theorem prefix_trimEnd (text : String) : (trimEnd text).toList <+: text.toList := by
  obtain ⟨dropped, _, parts⟩ := exists_append_trimEndWhere isBlank text
  exact ⟨dropped, parts.symm⟩

theorem IsUnbroken.trimEnd {text : String} (whole : IsUnbroken text) : IsUnbroken (trimEnd text) :=
  fun present => whole ((prefix_trimEnd text).subset present)

theorem mem_trimEnd {text : String} {c : Char} (present : c ∈ text.toList)
    (dark : isBlank c = false) : c ∈ (trimEnd text).toList := by
  obtain ⟨dropped, blank, parts⟩ := exists_append_trimEndWhere isBlank text
  rw [parts, List.mem_append] at present
  refine present.resolve_right fun gone => ?_
  exact Bool.false_ne_true (dark.symm.trans (blank c gone))

theorem IsUnbroken.replaceAll {text : String} (whole : IsUnbroken text) (old : Char)
    {fresh : String} (free : IsUnbroken fresh) :
    IsUnbroken (replaceAll (String.singleton old) fresh text) := by
  rw [IsUnbroken, toList_replaceAll_singleton, List.mem_flatMap]
  rintro ⟨c, present, here⟩
  split at here
  · exact free here
  · exact whole (List.mem_singleton.1 here ▸ present)

theorem isUnbroken_toIdentifier (text : String) : IsUnbroken (Escape.toIdentifier text) := by
  intro present
  rcases Escape.mem_toIdentifier present with letter | line
  · exact absurd letter (by decide)
  · cases line

end Text

theorem isUnbroken_fragmentRoutine (menu command : String) :
    Text.IsUnbroken (fragmentRoutine menu command) :=
  ((Text.IsUnbroken.append (by decide) (Text.isUnbroken_toIdentifier menu)).append
    (by decide)).append (Text.isUnbroken_toIdentifier command)

structure Arg.IsUnbroken (arg : Arg) : Prop where
  name : Text.IsUnbroken arg.name
  prompt : arg.fallback = none → Text.IsUnbroken arg.promptLabel
  fallback : ∀ value, arg.fallback = some value → Text.IsUnbroken value.display
  bounds : ∀ bound, arg.minimum = some bound ∨ arg.maximum = some bound →
    Text.IsUnbroken bound.display

/-- No line feed in what is put into the lines before the body of a command. -/
structure Command.IsUnbroken (command : Command) : Prop where
  names : ∀ name ∈ command.names, Text.IsUnbroken name
  args : ∀ arg ∈ command.args, arg.IsUnbroken
  access : ∀ access, command.access = some access → Text.IsUnbroken access.display

/-- The text of a declared level is a number or a truth value. -/
theorem isUnbroken_of_declaresLevel {levels : List Int} {access : Json}
    (declared : declaresLevel levels access = true) : Text.IsUnbroken access.display := by
  unfold declaresLevel at declared
  split at declared
  · next level whole =>
      cases access with
      | int value => exact Text.isUnbroken_toString_int value
      | bool value => cases value <;> decide
      | float x =>
          obtain ⟨negative, significand, exponent, rfl⟩ := Binary64.exists_finite_of_toInt? whole
          exact (Binary64.numeral_text negative significand exponent).apart (by simp [IsNumeral])
      | null | str _ | arr _ | obj _ => cases whole
  · cases declared

theorem Command.isUnbroken_of_reachable {levels : List Int} {command : Command}
    (names : ∀ name ∈ command.names, Text.IsUnbroken name)
    (args : ∀ arg ∈ command.args, arg.IsUnbroken) (reachable : command.Reachable levels) :
    command.IsUnbroken :=
  ⟨names, args, fun access asked => isUnbroken_of_declaresLevel (reachable access asked)⟩

theorem Table.isUnbroken_of_mem_builtins {command : Command} {menu : String} {levels : List Int}
    (present : command ∈ builtins menu levels) : command.IsUnbroken := by
  have bare (words : List String) (same : command.names = words)
      (whole : ∀ word ∈ words, Text.IsUnbroken word) (free : command.access = none)
      (args : ∀ arg ∈ command.args, arg.IsUnbroken) : command.IsUnbroken :=
    ⟨same ▸ whole, args, by simp [free]⟩
  have free := (plain_of_mem_builtins present).2.1
  rw [builtins_eq_append, List.mem_append, List.mem_singleton] at present
  rcases present with called | rfl
  · rcases eq_of_mem_named called with rfl | rfl | rfl | rfl
    · exact bare ["clear", "cls", "c"] rfl (by decide) free (List.forall_mem_nil _)
    · exact bare ["exit", "ex", "e"] rfl (by decide) free (List.forall_mem_nil _)
    · exact bare ["help", "?", "h"] rfl (by decide) free (List.forall_mem_nil _)
    · refine bare ["auth"] rfl (by decide) free (List.forall_mem_singleton.2 ⟨?_, ?_, ?_, ?_⟩)
      · exact (by decide : Text.IsUnbroken "level")
      · exact fun _ => (by decide +kernel : Text.IsUnbroken ({ name := "level" } : Arg).promptLabel)
      · exact fun value given => by cases given
      · rintro bound (given | given) <;> cases given
        · decide
        · exact Text.isUnbroken_toString_int _
  · exact bare ["*"] rfl (by decide) free (List.forall_mem_nil _)

theorem Table.isUnbroken_of_mem {menu : Menu} {levels : List Int} {command : Command}
    (declared : ∀ command ∈ menu.commands, command.IsUnbroken)
    (present : command ∈ ofMenu menu levels) : command.IsUnbroken :=
  (mem_ofMenu present).elim (declared command) isUnbroken_of_mem_builtins

/-- No line feed in what a menu puts into its routines, what an author or a description says
aside. -/
structure Menu.IsUnbroken (menu : Menu) : Prop where
  name : Text.IsUnbroken menu.name
  lead : Text.IsUnbroken menu.lead.display
  names : ∀ command ∈ menu.commands, ∀ name ∈ command.names, Text.IsUnbroken name
  args : ∀ command ∈ menu.commands, ∀ arg ∈ command.args, arg.IsUnbroken

theorem Menu.IsUnbroken.table {menu : Menu} (unbroken : menu.IsUnbroken) {levels : List Int}
    (reachable : ∀ command ∈ menu.commands, command.Reachable levels) :
    ∀ command ∈ Table.ofMenu menu levels, command.IsUnbroken := by
  refine fun command => Table.isUnbroken_of_mem fun command declared => ?_
  exact Command.isUnbroken_of_reachable (unbroken.names command declared)
    (unbroken.args command declared) (reachable command declared)

end ShellMenu
