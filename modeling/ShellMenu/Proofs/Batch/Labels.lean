import Mathlib.Data.List.Pairwise
import ShellMenu.Proofs.Build.Names
import ShellMenu.Proofs.Number.Text
import ShellMenu.Proofs.Text.Reading

/-
  How a label is read. It is put together from a stem, the name of its menu, which may hold
  anything, and numbers or the name of an argument. The stem is known from the start of the label, a
  number from its end; an argument tells its number only where the menu is known.
-/

namespace ShellMenu.Batch

/-! ## Sites -/

/-- What a label of a menu marks: where its process routine is entered and left, the end of its
prompt, and inside the routine the end of a block, of a gate, of the supply of an argument and of a
help section. -/
inductive Site where
  | entry
  | leave
  | prompted
  | past (index : Nat)
  | allowed (index : Nat)
  | given (index : Nat) (arg : String)
  | shown (level : Int)
deriving DecidableEq, Repr

namespace Site

def stem : Site → String
  | .entry => "func_process_"
  | .leave => "end_func_process_"
  | .prompted => "end_switch_"
  | .past _ => "end_command_"
  | .allowed _ => "authorized_"
  | .given _ _ => "has_arg_"
  | .shown _ => "skip_help_"

/-- What follows the name of the menu. -/
def ending : Site → String
  | .entry | .leave | .prompted => ""
  | .past index | .allowed index => s!"_{index}"
  | .given index arg => s!"_{index}_{arg}"
  | .shown level => s!"_{level}"

def label (menu : String) (site : Site) : String :=
  site.stem ++ menu ++ site.ending

theorem label_entry (menu : String) : entry.label menu = s!"func_{processName menu}" := by
  simp [label, stem, ending, processName, toString, ← String.append_assoc]

theorem label_leave (menu : String) : leave.label menu = s!"end_func_{processName menu}" := by
  simp [label, stem, ending, processName, toString, ← String.append_assoc]

theorem label_past (menu : String) (index : Nat) :
    (past index).label menu = endCommand menu index := by
  simp [label, stem, ending, endCommand, toString, String.append_assoc]

theorem label_allowed (menu : String) (index : Nat) :
    (allowed index).label menu = authorized menu index := by
  simp [label, stem, ending, authorized, toString, String.append_assoc]

theorem label_given (menu : String) (index : Nat) (arg : String) :
    (given index arg).label menu = hasArg menu index arg := by
  simp [label, stem, ending, hasArg, toString, String.append_assoc]

theorem label_shown (menu : String) (level : Int) :
    (shown level).label menu = skipHelp menu level := by
  simp [label, stem, ending, skipHelp, toString, String.append_assoc]

theorem label_prompted (menu : String) : prompted.label menu = endSwitch menu := by
  simp [label, stem, ending, endSwitch, toString]

/-! ## Reading a label -/

def stems : List String :=
  ["func_process_", "end_func_process_", "end_switch_", "end_command_", "authorized_", "has_arg_",
    "skip_help_"]

theorem stem_mem_stems (site : Site) : site.stem ∈ stems := by
  cases site <;> simp [stem, stems]

theorem startsWith_label (menu : String) (site : Site) :
    Text.startsWith (site.label menu) site.stem = true := by
  rw [label, String.append_assoc]
  exact startsWith_append _ _

variable {menu other : String} {left right : Site}

/-- The stem is known from the label. -/
theorem stem_eq (same : left.label menu = right.label other) : left.stem = right.stem := by
  have pairwise : stems.Pairwise StemsApart := by decide
  have : Std.Symm StemsApart := ⟨fun _ _ apart => ⟨apart.2, apart.1⟩⟩
  by_contra differ
  have apart := pairwise.forall (stem_mem_stems left) (stem_mem_stems right) differ
  exact apart.not_both (startsWith_label menu left) (same ▸ startsWith_label other right)

theorem append_ending_eq (same : left.label menu = right.label other) :
    menu ++ left.ending = other ++ right.ending := by
  have stems := stem_eq same
  rw [label, label, stems, String.append_assoc, String.append_assoc] at same
  exact (String.append_right_inj _).1 same

/-- What comes before the first mark and what follows it are known from the whole. -/
theorem cut_inj {mark : Char} {front back front' back' : List Char} (free : mark ∉ front)
    (free' : mark ∉ front') (same : front ++ mark :: back = front' ++ mark :: back') :
    front = front' ∧ back = back' := by
  have cut := Text.upTo?_append free back
  rw [same, Text.upTo?_append free' back'] at cut
  cases cut
  exact ⟨rfl, rfl⟩

/-- The same for the last mark. -/
theorem cut_last_inj {mark : Char} {front back front' back' : List Char} (free : mark ∉ back)
    (free' : mark ∉ back') (same : front ++ mark :: back = front' ++ mark :: back') :
    front = front' ∧ back = back' := by
  have backwards := congrArg List.reverse same
  simp only [List.reverse_append, List.reverse_cons, List.append_assoc, List.singleton_append]
    at backwards
  obtain ⟨backs, fronts⟩ := cut_inj (by simpa using free) (by simpa using free') backwards
  exact ⟨List.reverse_injective fronts, List.reverse_injective backs⟩

theorem underscore_not_mem {text : String} (numeral : NumeralText text) : '_' ∉ text.toList :=
  numeral.apart (by simp [IsNumeral])

/-- A number at the end of a text tells where the name before it ends. -/
theorem cut_number {number digits : String} (first : NumeralText number)
    (second : NumeralText digits) (same : menu ++ s!"_{number}" = other ++ s!"_{digits}") :
    menu = other ∧ number = digits := by
  have chars := congrArg String.toList same
  simp only [toString, String.toList_append] at chars
  obtain ⟨menus, numbers⟩ := cut_last_inj (underscore_not_mem first) (underscore_not_mem second)
    (by simpa using chars)
  exact ⟨String.toList_injective menus, String.toList_injective numbers⟩

/-- Unless it is about an argument, a label tells its menu and its site. -/
theorem eq_of_label_eq (same : left.label menu = right.label other)
    (free : left.stem ≠ "has_arg_") : menu = other ∧ left = right := by
  have stems := stem_eq same
  have rest := append_ending_eq same
  cases left <;> cases right <;> simp only [stem, String.reduceEq] at stems
  case entry.entry | leave.leave | prompted.prompted =>
    simp only [ending, String.append_empty] at rest
    exact ⟨rest, rfl⟩
  case past.past index index' | allowed.allowed index index' =>
    obtain ⟨menus, numbers⟩ :=
      cut_number (numeral_toString index) (numeral_toString index') rest
    exact ⟨menus, congrArg _ (eq_of_toString_eq numbers)⟩
  case shown.shown level level' =>
    obtain ⟨menus, numbers⟩ :=
      cut_number (numeral_toString_int level) (numeral_toString_int level') rest
    exact ⟨menus, congrArg _ (eq_of_toString_int_eq numbers)⟩
  case given.given => exact absurd rfl free

/-- In one menu, it tells its site in any case. -/
theorem label_injective (menu : String) : Function.Injective (label menu) := by
  intro left right same
  by_cases about : left.stem = "has_arg_"
  · have endings := (String.append_right_inj menu).1 (append_ending_eq same)
    have stems := stem_eq same
    cases left <;> cases right <;> simp only [stem, String.reduceEq] at stems about
    case given.given index arg index' arg' =>
      have chars := congrArg String.toList endings
      simp only [ending, toString, String.toList_append] at chars
      obtain ⟨numbers, args⟩ := cut_inj (underscore_not_mem (numeral_toString index))
        (underscore_not_mem (numeral_toString index')) (by simpa [toString] using chars)
      rw [eq_of_toString_eq (String.toList_injective numbers), String.toList_injective args]
  · exact (eq_of_label_eq same about).2

end Site

end ShellMenu.Batch
