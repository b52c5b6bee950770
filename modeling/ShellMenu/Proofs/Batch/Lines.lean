import ShellMenu.Batch.Routines
import ShellMenu.Proofs.Batch.Redirection
import ShellMenu.Proofs.Outcome
import ShellMenu.Proofs.Plan.Unbroken

/-
  The lines of a batch routine, and the labels among them. A statement gives one line of the text or
  several. A text that is put into it may bring line feeds, and with them lines that look like
  labels; where none does, the labels of the text are those that the statements name.
-/

namespace ShellMenu.Batch

theorem isUnbroken_escape {text : String} (whole : Text.IsUnbroken text) :
    Text.IsUnbroken (escape text) := by
  intro present
  rw [toList_escape] at present
  rcases Escape.mem_of_mem_flatMap_escapeChar present with escapes | inside
  · cases escapes
  · exact whole ((Placeholder.mem_convert_iff _ (by decide) text).1 inside)

theorem isUnbroken_valueText {value : Json} (whole : Text.IsUnbroken value.display) :
    Text.IsUnbroken (valueText value) := by
  cases value with
  | bool value => cases value <;> decide
  | _ => exact whole

/-! ## Lines and labels -/

/-- The lines that a statement gives to the text. -/
def Statement.rows (statement : Statement) : List String :=
  statement.lines.flatMap (Text.splitAt '\n')

def rows (statements : List Statement) : List String :=
  statements.flatMap Statement.rows

theorem splitAt_joinLines_statementLines {statements : List Statement}
    (some : statementLines statements ≠ []) :
    Text.splitAt '\n' (Text.joinLines (statementLines statements)) = rows statements := by
  rw [Text.splitAt_joinLines some, statementLines, List.flatMap_assoc]
  rfl

@[simp]
theorem rows_nil : rows [] = [] := rfl

theorem rows_cons (statement : Statement) (rest : List Statement) :
    rows (statement :: rest) = statement.rows ++ rows rest :=
  List.flatMap_cons

theorem rows_append (left right : List Statement) :
    rows (left ++ right) = rows left ++ rows right :=
  List.flatMap_append

def isIndent (c : Char) : Bool :=
  c = ' ' || c = '\t'

/-- A label stands behind a colon; a blank behind the colon makes a remark of the line. -/
def labelRow? (row : String) : Option String :=
  match row.toList.dropWhile isIndent with
  | ':' :: c :: rest => if isIndent c then none else some (String.ofList (c :: rest))
  | _ => none

theorem labelRow?_of_prefix {row : String} {c : Char} {rest : List Char}
    (front : row.toList <+: c :: rest) (plain : c ≠ ':') (solid : isIndent c = false) :
    labelRow? row = none := by
  cases chars : row.toList with
  | nil => simp [labelRow?, chars]
  | cons d others =>
      rw [chars, List.cons_prefix_cons] at front
      simp [labelRow?, chars, front.1, solid, plain]

def labels (statements : List Statement) : List String :=
  statements.filterMap Statement.label?

theorem labels_append (left right : List Statement) :
    labels (left ++ right) = labels left ++ labels right :=
  List.filterMap_append

theorem labels_cons_of_none {statement : Statement} (plain : statement.label? = none)
    (rest : List Statement) : labels (statement :: rest) = labels rest :=
  List.filterMap_cons_none plain

theorem labels_cons_label (name : String) (rest : List Statement) :
    labels (.label name :: rest) = name :: labels rest :=
  List.filterMap_cons_some rfl

theorem labelRow?_indent (row : String) : labelRow? ("    " ++ row) = labelRow? row := by
  simp [labelRow?, isIndent]

/-- What an author or a description says. -/
def Statement.isAside : Statement → Bool
  | .authored _ | .comment _ => true
  | _ => false

def generatedRows (statements : List Statement) : List String :=
  rows (statements.filter fun statement => !statement.isAside)

def Condition.IsTidy : Condition → Prop
  | .token word _ => Text.IsUnbroken word
  | .variable name value _ => Text.IsUnbroken name ∧ Text.IsUnbroken value
  | .defined name => Text.IsUnbroken name
  | .failed => True
  | .below name bound | .reaches name bound => Text.IsUnbroken name ∧ Text.IsUnbroken bound

/-- Has no line feed in it, and no line but that of a label looks like one. What an author or a
description says may have lines of its own. -/
def Statement.IsTidy (aside : String → Prop) : Statement → Prop
  | .line text => Text.IsUnbroken text ∧ labelRow? text = none
  | .authored text => ∀ row ∈ Text.splitAt '\n' text, aside row
  | .comment text => ∀ row ∈ Text.splitAt '\n' (": " ++ text), aside row
  | .label name => Text.IsUnbroken name ∧ labelRow? (":" ++ name) = some name
  | .assign name value => Text.IsUnbroken name ∧ Text.IsUnbroken value
  | .assignIf condition name value =>
      condition.IsTidy ∧ Text.IsUnbroken name ∧ Text.IsUnbroken value
  | .jumpIf condition target => condition.IsTidy ∧ Text.IsUnbroken target
  | .failIf condition message => condition.IsTidy ∧ Text.IsUnbroken message
  | .call routine args => Text.IsUnbroken routine ∧ ∀ arg ∈ args, Text.IsUnbroken arg
  | .question name text _ => Text.IsUnbroken name ∧ Text.IsUnbroken text
  | .findNonNumeral name => Text.IsUnbroken name

theorem Condition.IsTidy.source {condition : Condition} (tidy : condition.IsTidy) :
    Text.IsUnbroken condition.source := by
  match condition, tidy with
  | .token word same, tidy =>
      have free : '\n' ∉ word.toList := tidy
      cases same <;> simp [Text.IsUnbroken, Condition.source, toString, free]
  | .variable name value same, ⟨named, valued⟩ =>
      cases same <;> simp [Text.IsUnbroken, Condition.source, toString, named, valued]
  | .defined name, tidy =>
      have free : '\n' ∉ name.toList := tidy
      simp [Text.IsUnbroken, Condition.source, toString, free]
  | .failed, _ => decide
  | .below name bound, ⟨named, bounded⟩ =>
      simp [Text.IsUnbroken, Condition.source, toString, named, bounded]
  | .reaches name bound, ⟨named, bounded⟩ =>
      simp [Text.IsUnbroken, Condition.source, toString, named, bounded]

section Rows

variable {statement : Statement} {aside : String → Prop}

theorem rows_of_lines {line : String} (lines : statement.lines = [line])
    (whole : Text.IsUnbroken line) : statement.rows = [line] := by
  rw [Statement.rows, lines, List.flatMap_singleton, Text.splitAt_of_not_mem whole]

theorem call_tidy {routine : String} {args : List String} (named : Text.IsUnbroken routine)
    (passed : ∀ arg ∈ args, Text.IsUnbroken arg) :
    ∀ line ∈ call routine args, Text.IsUnbroken line ∧ labelRow? line = none := by
  have joined : Text.IsUnbroken (" ".intercalate args) :=
    Text.not_mem_intercalate (by decide) passed
  unfold call
  generalize " ".intercalate args = words at joined ⊢
  have calling : Text.IsUnbroken ("call :func_" ++ routine ++ " " ++ words) := by
    simp [Text.IsUnbroken, named, joined]
  have front : (Text.trimEnd ("call :func_" ++ routine ++ " " ++ words)).toList <+:
      'c' :: ("all :func_" ++ routine ++ " " ++ words).toList := by
    have chars : ("call :func_" ++ routine ++ " " ++ words).toList =
        'c' :: ("all :func_" ++ routine ++ " " ++ words).toList := by
      simp
    exact chars ▸ Text.prefix_trimEnd _
  simp only [List.forall_mem_cons]
  refine ⟨⟨?_, ?_⟩, ⟨calling.trimEnd, labelRow?_of_prefix front (by decide) rfl⟩,
    List.forall_mem_nil _⟩
  · simp [Text.IsUnbroken, toString, named]
  · simp [labelRow?, isIndent, toString]

theorem error_tidy {message : String} (whole : Text.IsUnbroken message) :
    ∀ line ∈ error message, Text.IsUnbroken line ∧ labelRow? line = none := by
  refine List.forall_mem_cons.2 ⟨⟨?_, ?_⟩, call_tidy (by decide) (List.forall_mem_nil _)⟩
  · exact (Text.IsUnbroken.append (by decide) whole).append (by decide)
  · simp [labelRow?, isIndent, toString]

theorem fail_tidy {message : String} (whole : Text.IsUnbroken message) :
    ∀ line ∈ fail message, Text.IsUnbroken line ∧ labelRow? line = none := by
  have inner : ∀ line ∈ error message ++ ["exit /b 1"],
      Text.IsUnbroken line ∧ labelRow? line = none := by
    refine List.forall_mem_append.2 ⟨error_tidy whole, List.forall_mem_singleton.2 ⟨by decide, ?_⟩⟩
    simp [labelRow?, isIndent]
  have indented : ∀ line ∈ indent (error message ++ ["exit /b 1"]),
      Text.IsUnbroken line ∧ labelRow? line = none := by
    refine List.forall_mem_map.2 fun line listed => ?_
    obtain ⟨unbroken, plain⟩ := inner line listed
    exact ⟨Text.IsUnbroken.append (by decide) unbroken, (labelRow?_indent line).trans plain⟩
  have brackets : ∀ line ∈ ["(", ")"], Text.IsUnbroken line ∧ labelRow? line = none := by
    simp [labelRow?, isIndent, Text.IsUnbroken]
  obtain ⟨opening, closing⟩ := List.forall_mem_cons.1 brackets
  exact List.forall_mem_append.2
    ⟨List.forall_mem_append.2 ⟨List.forall_mem_singleton.2 opening, indented⟩, closing⟩

/-- The text of a refusal goes on for several lines, and the condition stands on the first. -/
theorem rows_failIf {condition : Condition} {message : String} (asked : condition.IsTidy)
    (told : Text.IsUnbroken message) :
    (Statement.failIf condition message).rows =
      ("if " ++ condition.source ++ " (") :: (fail message).tail := by
  have rest : Text.splitAt '\n' (Text.joinLines (fail message)) = "(" :: (fail message).tail :=
    Text.splitAt_joinLines_of_not_mem (List.cons_ne_nil _ _) fun line listed =>
      (fail_tidy told line listed).1
  have front : Text.IsUnbroken ("if " ++ condition.source ++ " ") := by
    simp [Text.IsUnbroken, asked.source]
  obtain ⟨first, others, pieces, whole⟩ :=
    Text.splitAt_append_of_not_mem front (Text.joinLines (fail message))
  rw [rest] at pieces
  cases pieces
  have line : (Statement.failIf condition message).lines =
      ["if " ++ condition.source ++ " " ++ Text.joinLines (fail message)] := rfl
  rw [Statement.rows, line, List.flatMap_singleton, whole, String.append_assoc]
  rfl

theorem prompt_tidy {name text : String} (named : Text.IsUnbroken name)
    (told : Text.IsUnbroken text) :
    ∀ line ∈ prompt text name, Text.IsUnbroken line ∧ labelRow? line = none := by
  have escaped := isUnbroken_escape told
  simp only [prompt, List.forall_mem_cons]
  refine ⟨⟨?_, ?_⟩, ⟨?_, ?_⟩, List.forall_mem_nil _⟩
  · simp [Text.IsUnbroken, toString, named]
  · simp [labelRow?, isIndent, toString]
  · simp [Text.IsUnbroken, toString, named, escaped]
  · simp [labelRow?, isIndent, toString]

theorem hiddenPrompt_tidy {name text : String} (named : Text.IsUnbroken name)
    (told : Text.IsUnbroken text) :
    ∀ line ∈ hiddenPrompt text name, Text.IsUnbroken line ∧ labelRow? line = none := by
  have quoted : Text.IsUnbroken (Text.replaceAll "'" "''" text) := told.replaceAll '\'' (by decide)
  unfold hiddenPrompt
  generalize Text.replaceAll "'" "''" text = label at quoted ⊢
  simp only [List.forall_mem_cons]
  refine ⟨⟨?_, ?_⟩, ⟨?_, ?_⟩, List.forall_mem_nil _⟩
  · simp [Text.IsUnbroken, toString, named]
  · simp [labelRow?, isIndent, toString]
  · have read : Text.IsUnbroken (s!"$p = Read-Host -AsSecureString -Prompt '{label}'; "
        ++ "[Runtime.InteropServices.Marshal]::PtrToStringAuto("
        ++ "[Runtime.InteropServices.Marshal]::SecureStringToBSTR($p))") :=
      ((((by decide : Text.IsUnbroken _).append quoted).append (by decide)).append
        (by decide)).append (by decide)
    exact (((by decide : Text.IsUnbroken _).append read).append (by decide)).append
      (((by decide : Text.IsUnbroken _).append named).append (by decide))
  · simp only [labelRow?, toString, String.toList_append, String.append_assoc]
    rfl

/-- The labels of a statement are those that it names, where no text brings a line feed. -/
theorem Statement.IsTidy.filterMap_rows (tidy : statement.IsTidy aside)
    (generated : statement.isAside = false) :
    statement.rows.filterMap labelRow? = statement.label?.toList := by
  have plain {lines : List String} (here : statement.lines = lines)
      (each : ∀ line ∈ lines, Text.IsUnbroken line ∧ labelRow? line = none) :
      statement.rows.filterMap labelRow? = [] := by
    rw [Statement.rows, here, List.filterMap_flatMap, List.flatMap_eq_nil_iff]
    intro line listed
    simp [Text.splitAt_of_not_mem (each line listed).1, (each line listed).2]
  match statement, tidy with
  | .line text, tidy => exact plain rfl (List.forall_mem_singleton.2 tidy)
  | .authored _, _ => cases generated
  | .comment _, _ => cases generated
  | .label name, ⟨named, read⟩ =>
      have whole : Text.IsUnbroken (":" ++ name) := Text.IsUnbroken.append (by decide) named
      have only : (Statement.label name).rows = [":" ++ name] := rows_of_lines rfl whole
      rw [only, List.filterMap_cons_some read]
      rfl
  | .assign name value, ⟨named, valued⟩ =>
      refine plain rfl (List.forall_mem_singleton.2 ⟨?_, ?_⟩)
      · simp [Text.IsUnbroken, toString, named, valued]
      · simp [labelRow?, isIndent, toString]
  | .assignIf condition name value, ⟨asked, named, valued⟩ =>
      refine plain rfl (List.forall_mem_singleton.2 ⟨?_, ?_⟩)
      · simp [Text.IsUnbroken, toString, asked.source, named, valued]
      · simp [labelRow?, isIndent, toString]
  | .jumpIf condition target, ⟨asked, named⟩ =>
      refine plain rfl (List.forall_mem_singleton.2 ⟨?_, ?_⟩)
      · simp [Text.IsUnbroken, toString, asked.source, named]
      · simp [labelRow?, isIndent, toString]
  | .failIf condition message, ⟨asked, told⟩ =>
      have first : labelRow? ("if " ++ condition.source ++ " (") = none := by
        simp [labelRow?, isIndent]
      have others : (fail message).tail.filterMap labelRow? = [] := List.filterMap_eq_nil_iff.2
        fun line later => (fail_tidy told line (List.mem_of_mem_tail later)).2
      rw [rows_failIf asked told, List.filterMap_cons_none first, others]
      rfl
  | .call routine args, ⟨named, passed⟩ => exact plain rfl (call_tidy named passed)
  | .question name text true, ⟨named, told⟩ => exact plain rfl (hiddenPrompt_tidy named told)
  | .question name text false, ⟨named, told⟩ => exact plain rfl (prompt_tidy named told)
  | .findNonNumeral name, tidy =>
      have named : '\n' ∉ name.toList := tidy
      refine plain rfl (List.forall_mem_cons.2 ⟨⟨by decide, ?_⟩, List.forall_mem_cons.2
        ⟨⟨?_, ?_⟩, List.forall_mem_singleton.2 ⟨?_, ?_⟩⟩⟩)
      · simp [labelRow?, isIndent]
      · simp [Text.IsUnbroken, toString, named]
      · simp [labelRow?, isIndent, toString]
      · simp [Text.IsUnbroken, toString, named]
      · simp [labelRow?, isIndent, toString]

theorem Statement.IsTidy.aside_of_mem_rows (tidy : statement.IsTidy aside)
    (said : statement.isAside = true) : ∀ row ∈ statement.rows, aside row := by
  match statement, tidy with
  | .authored text, tidy =>
      rw [Statement.rows, Statement.lines, List.flatMap_singleton]
      exact tidy
  | .comment text, tidy =>
      rw [Statement.rows, Statement.lines, List.flatMap_singleton]
      exact tidy
  | .line _, _ | .label _, _ | .assign _ _, _ | .assignIf _ _ _, _ | .jumpIf _ _, _
  | .failIf _ _, _ | .call _ _, _ | .question _ _ _, _ | .findNonNumeral _, _ => cases said

end Rows

def Tidy (aside : String → Prop) (statements : List Statement) : Prop :=
  ∀ statement ∈ statements, statement.IsTidy aside

namespace Tidy

variable {aside : String → Prop} {statements : List Statement}

/-- The labels of the generated lines are those that the statements name. -/
theorem filterMap_generatedRows (tidy : Tidy aside statements) :
    (generatedRows statements).filterMap labelRow? = labels statements := by
  induction statements with
  | nil => rfl
  | cons statement rest ih =>
      obtain ⟨first, others⟩ := List.forall_mem_cons.1 tidy
      cases said : statement.isAside with
      | true =>
          have unnamed : statement.label? = none := by
            cases statement <;> first | rfl | cases said
          rw [generatedRows, List.filter_cons_of_neg (by simp [said]), labels_cons_of_none unnamed]
          exact ih others
      | false =>
          rw [generatedRows, List.filter_cons_of_pos (by simp [said]), rows, List.flatMap_cons,
            List.filterMap_append, first.filterMap_rows said, labels, List.filterMap_cons]
          have later := ih others
          rw [generatedRows, rows, labels] at later
          rw [later]
          cases statement.label? <;> rfl

/-- A line that looks like a label is that of a label, or was said aside. -/
theorem mem_labels_or_aside (tidy : Tidy aside statements) {row name : String}
    (present : row ∈ rows statements) (read : labelRow? row = some name) :
    name ∈ labels statements ∨ aside row := by
  obtain ⟨statement, listed, here⟩ := List.mem_flatMap.1 present
  have first := tidy statement listed
  cases said : statement.isAside with
  | true => exact Or.inr (first.aside_of_mem_rows said row here)
  | false =>
      have named : name ∈ statement.rows.filterMap labelRow? :=
        List.mem_filterMap.2 ⟨row, here, read⟩
      rw [first.filterMap_rows said, Option.mem_toList] at named
      exact Or.inl (List.mem_filterMap.2 ⟨statement, listed, named⟩)

end Tidy

/-! ## What is written before a body -/

namespace Tidy

variable {aside : String → Prop}

theorem nil : Tidy aside [] :=
  List.forall_mem_nil _

theorem cons {statement : Statement} {rest : List Statement} (first : statement.IsTidy aside)
    (others : Tidy aside rest) : Tidy aside (statement :: rest) :=
  List.forall_mem_cons.2 ⟨first, others⟩

theorem append {left right : List Statement} (first : Tidy aside left)
    (second : Tidy aside right) : Tidy aside (left ++ right) :=
  List.forall_mem_append.2 ⟨first, second⟩

theorem map {α : Type} {make : α → Statement} {xs : List α}
    (each : ∀ x ∈ xs, (make x).IsTidy aside) : Tidy aside (xs.map make) :=
  List.forall_mem_map.2 each

theorem flatMap {α : Type} {part : α → List Statement} {xs : List α}
    (each : ∀ x ∈ xs, Tidy aside (part x)) : Tidy aside (xs.flatMap part) := by
  intro statement present
  obtain ⟨x, listed, here⟩ := List.mem_flatMap.1 present
  exact each x listed statement here

end Tidy

variable {aside : String → Prop}

theorem isTidy_label {name : String} (whole : Text.IsUnbroken name) {c : Char}
    (first : name.toList.head? = some c) (solid : isIndent c = false) :
    (Statement.label name).IsTidy aside := by
  refine ⟨whole, ?_⟩
  obtain ⟨rest, chars⟩ := List.head?_eq_some_iff.1 first
  have row : (":" ++ name).toList = ':' :: c :: rest := by simp [chars]
  have text : String.ofList (c :: rest) = name := by rw [← chars, String.ofList_toList]
  have colon : isIndent ':' = false := rfl
  simp [labelRow?, row, colon, solid, text]

theorem isTidy_line {text : String} (whole : Text.IsUnbroken text) {c : Char}
    (first : text.toList.head? = some c) (plain : c ≠ ':') (solid : isIndent c = false) :
    (Statement.line text).IsTidy aside := by
  obtain ⟨rest, chars⟩ := List.head?_eq_some_iff.1 first
  have front : text.toList <+: c :: rest := by simp [chars]
  exact ⟨whole, labelRow?_of_prefix front plain solid⟩

theorem isTidy_exit : (Statement.line "exit /b").IsTidy aside :=
  isTidy_line (c := 'e') (by decide) (by decide) (by decide) rfl

section Checks

variable {menu : String} (named : Text.IsUnbroken menu)

include named

theorem isUnbroken_numbered {stem : String} (fixed : Text.IsUnbroken stem) (index : Nat) :
    Text.IsUnbroken (stem ++ menu ++ "_" ++ toString index) :=
  ((fixed.append named).append (by decide)).append (Text.isUnbroken_toString_nat index)

theorem tidy_gates (index : Nat) {access : Option Json}
    (asked : ∀ level, access = some level → Text.IsUnbroken level.display) :
    Tidy aside (gates menu index access) := by
  cases access with
  | none => exact .nil
  | some level =>
      have shown := asked level rfl
      have label : Text.IsUnbroken (authorized menu index) :=
        isUnbroken_numbered named (by decide) index
      have first : (authorized menu index).toList.head? = some 'a' := by
        simp [authorized, toString]
      have routine : Text.IsUnbroken s!"auth_{level.display}" :=
        Text.IsUnbroken.append (by decide) shown
      exact .cons ⟨⟨by decide, shown⟩, label⟩ (.cons ⟨routine, List.forall_mem_nil _⟩
        (.cons (isTidy_line (c := 'i') (by decide) (by decide) (by decide) rfl)
          (.cons (isTidy_label label first rfl) .nil)))

omit named in
theorem tidy_argTests {arg : Arg} (unbroken : arg.IsUnbroken) : Tidy aside (argTests arg) := by
  have refused (words : String) (fixed : Text.IsUnbroken words) :
      Text.IsUnbroken ("Arg '" ++ arg.name ++ words) :=
    (Text.IsUnbroken.append (by decide) unbroken.name).append fixed
  refine .append (.append ?_ ?_) ?_
  · cases arg.hasBounds with
    | true =>
        have flag : Text.IsUnbroken "non_numeric" := by decide
        exact .cons unbroken.name (.cons ⟨flag, refused _ (by decide)⟩ .nil)
    | false => exact .nil
  · cases given : arg.minimum with
    | none => exact .nil
    | some bound =>
        have shown := unbroken.bounds bound (Or.inl given)
        exact .cons ⟨⟨unbroken.name, shown⟩, ((refused _ (by decide)).append shown).append
          (by decide)⟩ .nil
  · cases given : arg.maximum with
    | none => exact .nil
    | some bound =>
        have shown := unbroken.bounds bound (Or.inr given)
        exact .cons ⟨⟨unbroken.name, shown⟩, ((refused _ (by decide)).append shown).append
          (by decide)⟩ .nil

omit named in
theorem isTidy_argSupply {arg : Arg} (unbroken : arg.IsUnbroken) :
    (argSupply arg).IsTidy aside := by
  unfold argSupply
  cases given : arg.fallback with
  | some value => exact ⟨unbroken.name, isUnbroken_valueText (unbroken.fallback value given)⟩
  | none =>
      have label := unbroken.prompt given
      have text : Text.IsUnbroken arg.promptText := label.append (by decide)
      refine ⟨unbroken.name, ?_⟩
      split
      · exact label
      · exact text

theorem tidy_argChecks (index : Nat) {args : List Arg} (unbroken : ∀ arg ∈ args, arg.IsUnbroken)
    (remark : aside ": Argument validation.") : Tidy aside (argChecks menu index args) := by
  unfold argChecks
  split
  · exact .nil
  · refine .cons (List.forall_mem_singleton.2 remark) (.flatMap fun entry listed => ?_)
    obtain ⟨arg, position⟩ := entry
    have whole := unbroken arg (List.fst_mem_of_mem_zipIdx listed)
    have label : Text.IsUnbroken (hasArg menu index arg.name) :=
      ((isUnbroken_numbered named (by decide) index).append (by decide)).append whole.name
    have first : (hasArg menu index arg.name).toList.head? = some 'h' := by
      simp [hasArg, toString]
    have passed : Text.IsUnbroken s!"%~{position}" :=
      Text.IsUnbroken.append (by decide) (Text.isUnbroken_toString_nat position)
    exact .cons ⟨whole.name, passed⟩ (.cons ⟨⟨whole.name, by decide⟩, label⟩
      (.cons (isTidy_argSupply whole) (.cons (isTidy_label label first rfl)
        (tidy_argTests whole))))

end Checks

/-! ## Blocks -/

theorem isTidy_echoLine {text : String} (whole : Text.IsUnbroken text) :
    (Statement.line (echoLine text)).IsTidy aside := by
  unfold echoLine
  split
  · exact isTidy_line (c := 'e') (by decide) (by decide) (by decide) rfl
  · refine isTidy_line (Text.IsUnbroken.append (by decide) whole) (c := 'e') ?_ (by decide) rfl
    simp [toString]

theorem tidy_helpStatements {plan : MenuPlan} (named : Text.IsUnbroken plan.name) :
    Tidy aside (helpStatements plan) := by
  refine .flatMap fun part _ => ?_
  have shown : Tidy aside
      ((echo (escape (Text.trimEndNewlines part.text))).map Statement.line) := by
    refine .map fun row listed => ?_
    obtain ⟨line, inside, rfl⟩ := List.mem_map.1 listed
    exact isTidy_echoLine (Text.not_mem_of_mem_splitAt inside)
  have label : Text.IsUnbroken (skipHelp plan.name part.level) :=
    ((Text.IsUnbroken.append (by decide) named).append (by decide)).append
      (Text.isUnbroken_toString_int part.level)
  have first : (skipHelp plan.name part.level).toList.head? = some 's' := by
    simp [skipHelp, toString]
  simp only
  split
  · exact shown
  · exact .cons ⟨⟨by decide, Text.isUnbroken_toString_int part.level⟩, label⟩
      (.cons (isTidy_line (c := 'e') (by decide) (by decide) (by decide) rfl)
        (shown.append (.cons (isTidy_label label first rfl) .nil)))

theorem tidy_error {message : String} (told : Text.IsUnbroken message) :
    Tidy aside ((error message).map Statement.line ++ [.line "exit /b 1"]) :=
  .append (.map (error_tidy told))
    (.cons (isTidy_line (c := 'e') (by decide) (by decide) (by decide) rfl) .nil)

theorem tidy_authBody (levels : List Int) : Tidy aside (authBody (levels.map toString)) := by
  refine .cons ⟨by decide, by decide⟩ (.append (.map fun level listed => ?_) ?_)
  · obtain ⟨value, _, rfl⟩ := List.mem_map.1 listed
    exact ⟨⟨by decide, Text.isUnbroken_toString_int value⟩, by decide, by decide⟩
  · exact .cons ⟨⟨by decide, by decide⟩, by decide⟩ (.cons ⟨by decide, List.forall_mem_nil _⟩ .nil)

theorem tidy_bodyStatements {plan : MenuPlan} {levels : List Int} {planned : PlannedCommand}
    (named : Text.IsUnbroken plan.name) (unbroken : planned.command.IsUnbroken)
    (authored : ∀ inline, planned.body = .inline inline →
      ∀ line ∈ inline.lines, ∀ row ∈ Text.splitAt '\n' line, aside row)
    {body : List Statement} (written : bodyStatements plan levels planned = .ok body) :
    Tidy aside body := by
  unfold bodyStatements at written
  split at written
  · next builtin _ =>
      cases builtin with
      | clear =>
          cases written
          exact .cons ⟨named, by decide⟩ .nil
      | exit =>
          cases written
          exact .cons (isTidy_line (c := 'e') (by decide) (by decide) (by decide) rfl)
            (.cons ⟨by decide, by decide⟩ .nil)
      | help =>
          cases written
          exact tidy_helpStatements named
      | auth =>
          cases written
          exact tidy_authBody levels
      | catchAll => cases written
  · cases written
    refine .cons ⟨?_, List.forall_mem_map.2 fun arg present => ?_⟩ .nil
    · exact isUnbroken_fragmentRoutine _ _
    · exact (Text.IsUnbroken.append (by decide) (unbroken.args arg present).name).append (by decide)
  · next inline here =>
      cases written
      exact .map fun line listed => authored inline here line listed
  · cases written
    have name := unbroken.names planned.command.name List.mem_cons_self
    refine tidy_error ?_
    exact (((Text.IsUnbroken.append (by decide) name).append (by decide)).append
      (by decide)).append (by decide)

theorem tidy_matcher {command : Command} (unbroken : ∀ name ∈ command.names, Text.IsUnbroken name)
    {past : String} (named : Text.IsUnbroken past) : Tidy aside (matcher command past) := by
  have flag : Text.IsUnbroken (flagName command.name) :=
    Text.IsUnbroken.append (by decide) (Text.isUnbroken_toIdentifier _)
  unfold matcher
  split
  · exact .cons ⟨unbroken command.name List.mem_cons_self, named⟩ .nil
  · refine .cons ⟨flag, by decide⟩ (.append (.map fun name listed => ?_) ?_)
    · exact ⟨unbroken name listed, flag, by decide⟩
    · exact .cons ⟨⟨flag, by decide⟩, named⟩ .nil

theorem isUnbroken_endCommand {menu : String} (named : Text.IsUnbroken menu) (index : Nat) :
    Text.IsUnbroken (endCommand menu index) :=
  isUnbroken_numbered named (by decide) index

theorem isTidy_endCommand {menu : String} (named : Text.IsUnbroken menu) (index : Nat) :
    (Statement.label (endCommand menu index)).IsTidy aside := by
  refine isTidy_label (isUnbroken_endCommand named index) (c := 'e') ?_ rfl
  simp [endCommand, toString]

theorem tidy_body {plan : MenuPlan} {levels : List Int} {index : Nat} {planned : PlannedCommand}
    (named : Text.IsUnbroken plan.name) (unbroken : planned.command.IsUnbroken)
    (remark : aside ": Argument validation.")
    (authored : ∀ inline, planned.body = .inline inline →
      ∀ line ∈ inline.lines, ∀ row ∈ Text.splitAt '\n' line, aside row) :
    Ends (fun block => Tidy aside block.body) (fun _ => True)
      (block plan levels index planned) := by
  unfold block
  refine Ends.bind (Ends.any _) fun _ _ => ?_
  cases written : bodyStatements plan levels planned with
  | error error => exact trivial
  | ok body =>
      refine Ends.ok (.append ?_ (tidy_bodyStatements named unbroken authored written))
      split
      · exact (tidy_gates named index unbroken.access).append
          (tidy_argChecks named index unbroken.args remark)
      · exact .nil

/-- What a block is made of, its body aside. -/
theorem block_parts (plan : MenuPlan) (levels : List Int) (index : Nat) (planned : PlannedCommand) :
    Ends (fun block => block.description = planned.command.description ∧
        block.matcher = matcher planned.command block.past ∧
        block.past = endCommand plan.name index)
      (fun _ => True) (block plan levels index planned) := by
  unfold block
  refine Ends.bind (Ends.any _) fun _ _ => ?_
  cases bodyStatements plan levels planned with
  | error error => exact trivial
  | ok body => exact ⟨rfl, rfl, rfl⟩

/-- Whatever the author and the descriptions say. -/
theorem tidy_statements {plan : MenuPlan} {levels : List Int} {index : Nat}
    {planned : PlannedCommand} (named : Text.IsUnbroken plan.name)
    (unbroken : planned.command.IsUnbroken) :
    Ends (fun block => Tidy (fun _ => True) block.statements) (fun _ => True)
      (block plan levels index planned) := by
  have inside : Ends (fun block => Tidy (fun _ => True) block.body) (fun _ => True)
      (block plan levels index planned) :=
    tidy_body named unbroken trivial fun _ _ _ _ _ _ => trivial
  refine (inside.and (block_parts plan levels index planned)).mono ?_ fun _ holds => holds
  rintro block ⟨body, _, shape, past⟩
  have matching : Tidy (fun _ => True) block.matcher := by
    rw [shape, past]
    exact tidy_matcher unbroken.names (isUnbroken_endCommand named index)
  refine .cons (fun _ _ => trivial) ((matching.append body).append ?_)
  rw [past]
  exact .cons isTidy_exit (.cons (isTidy_endCommand named index) .nil)

theorem tidy_processStatements {menu : Menu} {levels : List Int} {fragments : Fragments}
    (named : Text.IsUnbroken menu.name)
    (unbroken : ∀ command ∈ Table.ofMenu menu levels, command.IsUnbroken) {blocks : List Block}
    (written : Batch.blocks (MenuPlan.ofMenu menu levels .batch fragments) levels = .ok blocks) :
    Tidy (fun _ => True) (processStatements blocks) := by
  have each : Ends (fun blocks => ∀ block ∈ blocks, Tidy (fun _ => True) block.statements)
      (fun _ => True) (Batch.blocks (MenuPlan.ofMenu menu levels .batch fragments) levels) := by
    refine Ends.mapM fun entry listed => tidy_statements named (unbroken _ ?_)
    exact (MenuPlan.mem_commands (List.fst_mem_of_mem_zipIdx (List.mem_of_mem_filter listed))).1
  refine .append (.flatMap (each.of_eq_ok written)) (.cons (fun _ _ => trivial) ?_)
  exact tidy_error (by decide)

end ShellMenu.Batch
