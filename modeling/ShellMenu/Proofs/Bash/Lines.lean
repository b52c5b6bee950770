import ShellMenu.Proofs.Bash.Format
import ShellMenu.Proofs.Plan.Help
import ShellMenu.Proofs.Plan.Unbroken

/-
  The lines of the arms of a process routine. Only the last line of an arm ends it where no text
  brings a line feed; a help text has lines of its own, and each of them shows something.
-/

namespace ShellMenu.Bash

/-! ## Quoted texts -/

theorem isUnbroken_doubleQuote {text : String} (whole : Text.IsUnbroken text) :
    Text.IsUnbroken (doubleQuote text) := by
  intro present
  rcases mem_doubleQuote present with quote | escape | inside
  · cases quote
  · cases escape
  · exact whole inside

theorem toList_printfEscape (text : String) :
    (printfEscape text).toList =
      text.toList.flatMap fun c => (formatChar c).flatMap (Escape.escapeChar '\\' quotable) := by
  rw [printfEscape, toList_escape, toList_printfFormat, List.flatMap_assoc]

theorem printfEscape_append (left right : String) :
    printfEscape (left ++ right) = printfEscape left ++ printfEscape right := by
  apply String.toList_injective
  simp [toList_printfEscape]

theorem printfEscape_empty : printfEscape "" = "" := by
  apply String.toList_injective
  simp [toList_printfEscape]

theorem printfEscape_joinLines (lines : List String) :
    printfEscape (Text.joinLines lines) = Text.joinLines (lines.map printfEscape) := by
  have feed : printfEscape "\n" = "\n" := by
    apply String.toList_injective
    rw [toList_printfEscape]
    decide
  induction lines with
  | nil => exact printfEscape_empty
  | cons line rest ih =>
      by_cases last : rest = []
      · simp [last, Text.joinLines]
      · rw [Text.joinLines_cons line last, printfEscape_append, printfEscape_append, feed, ih,
          List.map_cons, Text.joinLines_cons _ (by simpa using last)]

theorem mem_printfEscape_iff {c : Char} (plain : c ≠ '\\') (text : String) :
    c ∈ (printfEscape text).toList ↔ c ∈ text.toList := by
  have format (d e : Char) : e ∈ formatChar d ↔ e = d := by
    unfold formatChar
    split <;> simp
  have escape (d : Char) : c ∈ Escape.escapeChar '\\' quotable d ↔ c = d := by
    unfold Escape.escapeChar
    split <;> simp [plain]
  simp [toList_printfEscape, List.mem_flatMap, format, escape]

theorem isUnbroken_printfEscape {text : String} (whole : Text.IsUnbroken text) :
    Text.IsUnbroken (printfEscape text) :=
  fun present => whole ((mem_printfEscape_iff (by decide) text).1 present)

theorem isUnbroken_quoteWord {text : String} (whole : Text.IsUnbroken text) :
    Text.IsUnbroken (quoteWord text) := by
  unfold quoteWord
  split
  · decide
  · split
    · exact whole
    · have inside : Text.IsUnbroken (Text.replaceAll "'" "'\"'\"'" text) :=
        whole.replaceAll '\'' (by decide)
      exact (Text.IsUnbroken.append (by decide) inside).append (by decide)

theorem isUnbroken_valueWord {value : Json} (whole : Text.IsUnbroken value.display) :
    Text.IsUnbroken (valueWord value) := by
  have quoted : Text.IsUnbroken
      (if value.isSomething then quoteWord value.display else "''") := by
    split
    · exact isUnbroken_quoteWord whole
    · decide
  cases value with
  | bool value => cases value <;> decide
  | int value => exact Text.isUnbroken_toString_int value
  | float value => exact whole
  | null | str _ | arr _ | obj _ => exact quoted

/-! ## Lines that stay in their arm -/

/-- No line of the text ends an arm. -/
def KeepsArm (text : String) : Prop :=
  ∀ row ∈ Text.splitAt '\n' text, endsArm row = false

instance (text : String) : Decidable (KeepsArm text) :=
  List.decidableBAll _ (Text.splitAt '\n' text)

theorem endsArm_eq_false {row : String} {c : Char} (present : c ∈ row.toList) (solid : c ≠ ' ')
    (other : c ≠ ';') : endsArm row = false := by
  rw [endsArm, decide_eq_false_iff_not]
  intro only
  have kept : c ∈ row.toList.filter (· ≠ ' ') := List.mem_filter.2 ⟨present, by simp [solid]⟩
  rw [only] at kept
  simp [other] at kept

theorem keepsArm_of_mem {text : String} (whole : Text.IsUnbroken text) {c : Char}
    (present : c ∈ text.toList) (solid : c ≠ ' ') (other : c ≠ ';') : KeepsArm text := by
  rw [KeepsArm, Text.splitAt_of_not_mem whole]
  exact List.forall_mem_singleton.2 (endsArm_eq_false present solid other)

theorem keepsArm_empty : KeepsArm "" := by
  rw [KeepsArm, Text.splitAt_of_not_mem (by decide)]
  exact List.forall_mem_singleton.2 rfl

/-- Blanks before the first line change nothing. -/
theorem KeepsArm.blanks_append {text : String} (keeps : KeepsArm text) {blanks : String}
    (gone : blanks.toList.filter (· ≠ ' ') = []) : KeepsArm (blanks ++ text) := by
  have free : '\n' ∉ blanks.toList := fun present =>
    List.filter_eq_nil_iff.1 gone _ present (by decide)
  obtain ⟨first, rest, pieces, joined⟩ := Text.splitAt_append_of_not_mem free text
  rw [KeepsArm, pieces, List.forall_mem_cons] at keeps
  rw [KeepsArm, joined, List.forall_mem_cons]
  refine ⟨?_, keeps.2⟩
  rw [endsArm, String.toList_append, List.filter_append, gone, List.nil_append]
  exact keeps.1

theorem keepsArm_joinLines {lines : List String} (some : lines ≠ [])
    (keeps : ∀ line ∈ lines, KeepsArm line) : KeepsArm (Text.joinLines lines) := by
  intro row present
  rw [Text.splitAt_joinLines some] at present
  obtain ⟨line, listed, here⟩ := List.mem_flatMap.1 present
  exact keeps line listed row here

theorem keepsArm_indent {lines : List String} (keeps : ∀ line ∈ lines, KeepsArm line) :
    ∀ line ∈ indent lines, KeepsArm line :=
  List.forall_mem_map.2 fun line listed => (keeps line listed).blanks_append (by decide)

theorem keepsArm_conditional {opening : String} {inner : List String} (opens : KeepsArm opening)
    (keeps : ∀ line ∈ inner, KeepsArm line) :
    ∀ line ∈ [opening, "then"] ++ indent inner ++ ["fi"], KeepsArm line := by
  have asks : KeepsArm "then" :=
    keepsArm_of_mem (c := 't') (by decide) (by decide) (by decide) (by decide)
  have closes : KeepsArm "fi" :=
    keepsArm_of_mem (c := 'f') (by decide) (by decide) (by decide) (by decide)
  simp only [List.forall_mem_append, List.forall_mem_cons]
  exact ⟨⟨⟨opens, asks, List.forall_mem_nil _⟩, keepsArm_indent keeps⟩, closes,
    List.forall_mem_nil _⟩

theorem keepsArm_return : KeepsArm "return 1" :=
  keepsArm_of_mem (c := 'r') (by decide) (by decide) (by decide) (by decide)

theorem keepsArm_error {message : String} (told : Text.IsUnbroken message) :
    KeepsArm (error message) :=
  keepsArm_of_mem (Text.IsUnbroken.append (by decide) (isUnbroken_doubleQuote told)) (c := 'e')
    (by simp [error, toString]) (by decide) (by decide)

theorem keepsArm_rejectWhen {condition message : String} (asked : Text.IsUnbroken condition)
    (told : Text.IsUnbroken message) : ∀ line ∈ rejectWhen condition message, KeepsArm line := by
  have opening : KeepsArm s!"if {condition};" :=
    keepsArm_of_mem ((Text.IsUnbroken.append (by decide) asked).append (by decide)) (c := 'i')
      (by simp [toString]) (by decide) (by decide)
  refine keepsArm_conditional opening (List.forall_mem_cons.2 ⟨keepsArm_error told, ?_⟩)
  exact List.forall_mem_singleton.2 keepsArm_return

theorem keepsArm_prompt {text name : String} (told : Text.IsUnbroken text)
    (named : Text.IsUnbroken name) (hidden : Bool) :
    ∀ line ∈ prompt text name hidden, KeepsArm line := by
  have asked : KeepsArm s!"printf \"{printfEscape text}\"" :=
    keepsArm_of_mem ((Text.IsUnbroken.append (by decide) (isUnbroken_printfEscape told)).append
      (by decide)) (c := 'p') (by simp [toString]) (by decide) (by decide)
  have read (flags : String) (fixed : Text.IsUnbroken flags) :
      KeepsArm s!"read {flags} {name} < \"$INPUT_DEVICE\"" :=
    keepsArm_of_mem ((((Text.IsUnbroken.append (by decide) fixed).append (by decide)).append
      named).append (by decide)) (c := 'r') (by simp [toString]) (by decide) (by decide)
  have restored : KeepsArm s!"printf \"{reset}\"" :=
    keepsArm_of_mem (c := 'p') (by decide) (by decide) (by decide) (by decide)
  have fed : KeepsArm "echo \"\"" :=
    keepsArm_of_mem (c := 'e') (by decide) (by decide) (by decide) (by decide)
  simp only [prompt, List.forall_mem_append, List.forall_mem_cons]
  refine ⟨⟨asked, read _ ?_, restored, List.forall_mem_nil _⟩, ?_⟩
  · cases hidden <;> decide
  · cases hidden with
    | false => exact List.forall_mem_nil _
    | true => exact List.forall_mem_singleton.2 fed

/-! ## Statements -/

def Statement.KeepsArm (statement : Statement) : Prop :=
  ∀ line ∈ statement.lines, Bash.KeepsArm line

section Checks

variable {arg : Arg} (unbroken : arg.IsUnbroken)

include unbroken

theorem keepsArm_argSupply : (Statement.supply arg.name (argSupply arg)).KeepsArm := by
  have opening : KeepsArm s!"if [ \"${arg.name}\" == \"\" ];" :=
    keepsArm_of_mem ((Text.IsUnbroken.append (by decide) unbroken.name).append (by decide))
      (c := 'i') (by simp [toString]) (by decide) (by decide)
  have supplied : ∀ line ∈ (argSupply arg).lines arg.name, KeepsArm line := by
    unfold argSupply
    cases given : arg.fallback with
    | some value =>
        have word := isUnbroken_valueWord (unbroken.fallback value given)
        refine List.forall_mem_singleton.2
          (keepsArm_of_mem (c := '=') ?_ ?_ (by decide) (by decide))
        · exact (unbroken.name.append (by decide)).append word
        · simp [toString]
    | none =>
        exact keepsArm_prompt ((unbroken.prompt given).append (by decide)) unbroken.name arg.hidden
  exact keepsArm_conditional opening supplied

theorem keepsArm_argTests : ∀ statement ∈ argTests arg, statement.KeepsArm := by
  have refused (words : String) (fixed : Text.IsUnbroken words) :
      Text.IsUnbroken ("Arg '" ++ arg.name ++ words) :=
    (Text.IsUnbroken.append (by decide) unbroken.name).append fixed
  have compared (operator bound : String) (fixed : Text.IsUnbroken operator)
      (shown : Text.IsUnbroken bound) :
      Text.IsUnbroken ("[ \"$" ++ arg.name ++ operator ++ bound ++ "\" ]") :=
    ((((Text.IsUnbroken.append (by decide) unbroken.name).append fixed).append shown).append
      (by decide))
  simp only [argTests, List.forall_mem_append]
  refine ⟨⟨?_, ?_⟩, ?_⟩
  · split
    · refine List.forall_mem_singleton.2 (keepsArm_rejectWhen ?_ (refused _ (by decide)))
      exact (Text.IsUnbroken.append (by decide) unbroken.name).append (by decide)
    · exact List.forall_mem_nil _
  · cases given : arg.minimum with
    | none => exact List.forall_mem_nil _
    | some bound =>
        have shown := unbroken.bounds bound (Or.inl given)
        exact List.forall_mem_singleton.2 (keepsArm_rejectWhen (compared _ _ (by decide) shown)
          (((refused _ (by decide)).append shown).append (by decide)))
  · cases given : arg.maximum with
    | none => exact List.forall_mem_nil _
    | some bound =>
        have shown := unbroken.bounds bound (Or.inr given)
        exact List.forall_mem_singleton.2 (keepsArm_rejectWhen (compared _ _ (by decide) shown)
          (((refused _ (by decide)).append shown).append (by decide)))

theorem keepsArm_argCheck (index : Nat) : ∀ statement ∈ argCheck arg index, statement.KeepsArm := by
  have bound : (Statement.bind arg.name index).KeepsArm := by
    refine List.forall_mem_singleton.2 (keepsArm_of_mem (c := '=') ?_ ?_ (by decide) (by decide))
    · exact ((unbroken.name.append (by decide)).append (Text.isUnbroken_toString_nat index)).append
        (by decide)
    · simp [toString]
  simp only [argCheck, List.forall_mem_cons]
  exact ⟨bound, keepsArm_argSupply unbroken, keepsArm_argTests unbroken⟩

end Checks

theorem keepsArm_argChecks {args : List Arg} (unbroken : ∀ arg ∈ args, arg.IsUnbroken) :
    ∀ statement ∈ argChecks args, statement.KeepsArm := by
  unfold argChecks
  split
  · exact List.forall_mem_nil _
  · have remark : KeepsArm "# Argument validation." :=
      keepsArm_of_mem (c := 'A') (by decide) (by decide) (by decide) (by decide)
    refine List.forall_mem_cons.2 ⟨List.forall_mem_singleton.2 remark, ?_⟩
    intro statement present
    obtain ⟨⟨arg, index⟩, listed, here⟩ := List.mem_flatMap.1 present
    exact keepsArm_argCheck (unbroken arg (List.fst_mem_of_mem_zipIdx listed)) index statement here

theorem keepsArm_gates {access : Option Json}
    (asked : ∀ level, access = some level → Text.IsUnbroken level.display) :
    ∀ statement ∈ gates access, statement.KeepsArm := by
  cases access with
  | none => exact List.forall_mem_nil _
  | some level =>
      have shown := asked level rfl
      have opening : KeepsArm s!"if [ \"$AUTH_LEVEL\" != \"{level.display}\" ];" :=
        keepsArm_of_mem ((Text.IsUnbroken.append (by decide) shown).append (by decide)) (c := 'i')
          (by simp [toString]) (by decide) (by decide)
      have calls : KeepsArm s!"auth_{level.display} || return 1" :=
        keepsArm_of_mem ((Text.IsUnbroken.append (by decide) shown).append (by decide)) (c := 'a')
          (by simp [toString]) (by decide) (by decide)
      exact List.forall_mem_singleton.2
        (keepsArm_conditional opening (List.forall_mem_singleton.2 calls))

/-! ## Help -/

/-- A section has a heading, and below it a line for each of the commands that it shows. -/
theorem keepsArm_helpText {heading opening : String} (headed : Text.IsUnbroken heading)
    (opened : Text.IsUnbroken opening) {c : Char} (present : c ∈ opening.toList) (solid : c ≠ ' ')
    (other : c ≠ ';') {rows : List String} {commands : List Command}
    (shown : List.Forall₂ Help.Shows rows commands)
    (whole : ∀ command ∈ commands, Help.OneLine command) :
    KeepsArm (opening ++ printfEscape (Text.terminated (heading :: "" :: rows)) ++ "\"") := by
  have first : KeepsArm (opening ++ printfEscape heading) :=
    keepsArm_of_mem (opened.append (isUnbroken_printfEscape headed))
      (by simp [present]) solid other
  have each : ∀ row ∈ rows, KeepsArm (printfEscape row) := by
    induction shown with
    | nil => exact List.forall_mem_nil _
    | @cons row command rows commands shows _ ih =>
        obtain ⟨here, later⟩ := List.forall_mem_cons.1 whole
        have letter : 'G' ∈ row.toList := by
          obtain ⟨_, _, rfl⟩ := shows
          simp
        refine List.forall_mem_cons.2 ⟨keepsArm_of_mem (isUnbroken_printfEscape
          (shows.newline_not_mem here)) ((mem_printfEscape_iff ?_ row).2 letter) ?_ ?_, ih later⟩
        all_goals decide
  have text : opening ++ printfEscape (Text.terminated (heading :: "" :: rows)) ++ "\"" =
      Text.joinLines ((opening ++ printfEscape heading) :: printfEscape ""
        :: (rows.map printfEscape ++ [printfEscape "" ++ "\""])) := by
    have last := Text.joinLines_concat_append (printfEscape heading :: printfEscape ""
      :: rows.map printfEscape) (printfEscape "") "\""
    rw [Text.terminated_eq_joinLines (by simp), printfEscape_joinLines, List.map_append,
      List.map_cons, List.map_cons, List.map_singleton, String.append_assoc, last]
    simp only [List.cons_append]
    rw [Text.joinLines_cons (printfEscape heading) (by simp),
      Text.joinLines_cons (opening ++ printfEscape heading) (by simp)]
    simp only [String.append_assoc]
  have last : KeepsArm ("" ++ "\"") :=
    keepsArm_of_mem (c := '"') (by decide) (by decide) (by decide) (by decide)
  rw [text, printfEscape_empty]
  refine keepsArm_joinLines (by simp) ?_
  simp only [List.forall_mem_cons, List.forall_mem_append, List.forall_mem_map]
  exact ⟨first, keepsArm_empty, each, last, List.forall_mem_nil _⟩

theorem keepsArm_helpLines {menu : String} {table : List Command} {fragments : Fragments}
    {levels : List Int} (named : Text.IsUnbroken menu)
    (whole : ∀ command ∈ table, Help.OneLine command) :
    ∀ line ∈ helpLines (MenuPlan.helpSections menu table fragments levels), KeepsArm line := by
  intro line present
  obtain ⟨part, listed, here⟩ := List.mem_flatMap.1 present
  obtain ⟨heading, rows, commands, text, headed, shown, known⟩ :=
    MenuPlan.exists_shown_of_mem_helpSections named listed
  have told (opening : String) (opened : Text.IsUnbroken opening) (letter : 'p' ∈ opening.toList) :
      KeepsArm (opening ++ printfEscape part.text ++ "\"") := by
    rw [text]
    exact keepsArm_helpText headed opened letter (by decide) (by decide) shown
      fun command inside => whole command (known command inside)
  have asked : KeepsArm s!"if [ \"$AUTH_LEVEL\" == \"{part.level}\" ];" :=
    keepsArm_of_mem ((Text.IsUnbroken.append (by decide)
      (Text.isUnbroken_toString_int part.level)).append (by decide)) (c := 'i')
      (by simp [toString]) (by decide) (by decide)
  simp only at here
  split at here
  · rw [List.mem_singleton.1 here]
    exact told "printf \"" (by decide) (by decide)
  · exact keepsArm_conditional asked
      (List.forall_mem_singleton.2 (told "printf \"\\n" (by decide) (by decide))) line here

/-! ## Arms -/

section Arms

variable {menu : Menu} {levels : List Int} (named : Text.IsUnbroken menu.name)
  (unbroken : ∀ command ∈ Table.ofMenu menu levels, command.IsUnbroken)
  (described : ∀ command ∈ Table.ofMenu menu levels, Text.IsUnbroken command.description)

include named unbroken described

theorem keepsArm_builtinBody (fragments : Fragments) (builtin : Builtin) :
    ∀ line ∈ builtinBody (MenuPlan.ofMenu menu levels .bash fragments) builtin, KeepsArm line := by
  cases builtin with
  | clear =>
      refine List.forall_mem_singleton.2 (keepsArm_of_mem (c := 't') ?_ ?_ (by decide) (by decide))
      · exact named.append (by decide)
      · simp [toString]
  | exit => exact (by decide +kernel : ∀ line ∈ ["clear", "exit 0"], KeepsArm line)
  | help =>
      refine keepsArm_helpLines named fun command inside => ?_
      exact ⟨(unbroken command inside).names, fun arg listed =>
        ((unbroken command inside).args arg listed).name, described command inside⟩
  | auth =>
      exact (by decide +kernel : ∀ line ∈ ["if ! declare -F \"auth_$level\" > /dev/null;", "then",
        "    error \"Auth level $level does not exist.\"", "    return 1", "fi", "auth_$level"],
        KeepsArm line)
  | catchAll =>
      exact (by decide +kernel : ∀ line ∈
        ["error \"\\\"$\x7bparts[0]\x7d\\\" is not a valid command.\"", "return 1"], KeepsArm line)

omit named unbroken described in
theorem keepsArm_fragmentCall {name : String} {command : Command}
    (unbroken : ∀ arg ∈ command.args, arg.IsUnbroken) : KeepsArm (fragmentCall name command) := by
  have args : Text.IsUnbroken
      (" ".intercalate (command.args.map fun arg => s!"\"${arg.name}\"")) := by
    refine Text.not_mem_intercalate (by decide) (List.forall_mem_map.2 fun arg listed => ?_)
    exact (Text.IsUnbroken.append (by decide) (unbroken arg listed).name).append (by decide)
  have call : Text.IsUnbroken (fragmentRoutine name command.name ++ " "
      ++ " ".intercalate (command.args.map fun arg => s!"\"${arg.name}\"")) :=
    ((isUnbroken_fragmentRoutine name command.name).append (by decide)).append args
  refine keepsArm_of_mem (c := 'f') call.trimEnd (Text.mem_trimEnd ?_ rfl) (by decide) (by decide)
  simp [fragmentRoutine, toString]

theorem keepsArm_bodyStatements {fragments : Fragments} {planned : PlannedCommand}
    (present : planned.command ∈ Table.ofMenu menu levels)
    (authored : ∀ inline, planned.body = .inline inline → ∀ line ∈ inline.lines, KeepsArm line) :
    ∀ statement ∈ bodyStatements (MenuPlan.ofMenu menu levels .bash fragments) planned,
      statement.KeepsArm := by
  have single (line : String) (keeps : KeepsArm line) : (Statement.line line).KeepsArm :=
    List.forall_mem_singleton.2 keeps
  unfold bodyStatements
  split
  · refine List.forall_mem_map.2 fun line listed => single line ?_
    exact keepsArm_builtinBody named unbroken described fragments _ line listed
  · exact List.forall_mem_singleton.2
      (single _ (keepsArm_fragmentCall (unbroken planned.command present).args))
  · next inline here =>
      refine List.forall_mem_map.2 fun line listed => ?_
      exact List.forall_mem_singleton.2 (authored inline here line listed)
  · have name := (unbroken planned.command present).names _ List.mem_cons_self
    have told : Text.IsUnbroken
        s!"The '{planned.command.name}' command is not supported for {Dialect.platform .bash}." :=
      (((Text.IsUnbroken.append (by decide) name).append (by decide)).append (by decide)).append
        (by decide)
    have refused : KeepsArm (error
        s!"The '{planned.command.name}' command is not supported for {Dialect.platform .bash}.") :=
      keepsArm_error told
    exact List.forall_mem_cons.2 ⟨single _ refused,
      List.forall_mem_singleton.2 (single _ keepsArm_return)⟩

theorem isReadable_arm {fragments : Fragments} {planned : PlannedCommand}
    (present : planned.command ∈ Table.ofMenu menu levels)
    (authored : ∀ inline, planned.body = .inline inline → ∀ line ∈ inline.lines, KeepsArm line) :
    (arm (MenuPlan.ofMenu menu levels .bash fragments) planned).IsReadable := by
  have whole := unbroken planned.command present
  refine ⟨described planned.command present, armPattern_ne_words_nil planned.command, ?_, ?_⟩
  · show Text.IsUnbroken (armPattern planned.command).source
    unfold armPattern
    split
    · decide
    · refine Text.not_mem_intercalate (by decide) (List.forall_mem_map.2 fun name listed => ?_)
      exact isUnbroken_doubleQuote (whole.names name listed)
  · intro row inside
    obtain ⟨line, listed, here⟩ := List.mem_flatMap.1 inside
    obtain ⟨statement, part, given⟩ := List.mem_flatMap.1 listed
    have keeps : statement.KeepsArm := by
      rcases List.mem_append.1 part with check | body
      · split at check
        · rcases List.mem_append.1 check with gate | checks
          · exact keepsArm_gates whole.access statement gate
          · exact keepsArm_argChecks whole.args statement checks
        · cases check
      · exact keepsArm_bodyStatements named unbroken described present authored statement body
    exact (keeps line given).blanks_append (by decide) row here

end Arms

end ShellMenu.Bash
