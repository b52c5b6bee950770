import ShellMenu.Proofs.Plan.Arguments
import ShellMenu.Proofs.Plan.Gates
import ShellMenu.Proofs.Schema.WholeNames
import ShellMenu.Proofs.Spec.Demo

/-
  The bounds that the scripts compare arguments with. A shell compares integers; a bound that the
  document writes as an integer is compared as one, and the same number written as a double is
  not.
-/

namespace ShellMenu

/-- Digits, after a sign if there is one. -/
def Text.isIntegerLiteral (text : String) : Bool :=
  let digits := if text.toList.head? = some '-' then text.toList.tail else text.toList
  !digits.isEmpty && digits.all Char.isDigit

/-- A variable, and the bound that it is compared with. -/
structure Comparison where
  name : String
  reason : Reason
deriving DecidableEq, Repr

def Arg.comparisons (arg : Arg) : List Comparison :=
  (arg.minimum.toList.map fun bound => ⟨arg.name, .below bound.display⟩)
    ++ arg.maximum.toList.map fun bound => ⟨arg.name, .reaches bound.display⟩

/-! ## Literals -/

theorem Text.isIntegerLiteral_toString (value : Int) :
    isIntegerLiteral (toString value) = true := by
  have digits (n : Nat) : (!(toString n).toList.isEmpty && (toString n).toList.all Char.isDigit) =
      true := by
    rw [List.isEmpty_eq_false_iff.2 (toList_toString_ne_nil n),
      List.all_eq_true.2 fun c => isDigit_of_mem_toString]
    rfl
  cases value with
  | ofNat n =>
      have same : toString (Int.ofNat n) = toString n := rfl
      have unsigned : (toString n).toList.head? ≠ some '-' := by
        intro first
        cases isDigit_of_mem_toString (List.mem_of_head? first)
      rw [same, isIntegerLiteral, if_neg unsigned]
      exact digits n
  | negSucc n =>
      have signed : (toString (Int.negSucc n)).toList = '-' :: (toString (n + 1)).toList := by
        have split : toString (Int.negSucc n) = "-" ++ toString (n + 1) := rfl
        rw [split, String.toList_append]
        rfl
      rw [isIntegerLiteral, signed, List.head?_cons, if_pos rfl]
      exact digits (n + 1)

theorem Text.mem_isIntegerLiteral {text : String} (literal : isIntegerLiteral text = true)
    {c : Char} (present : c ∈ text.toList) : c.isDigit = true ∨ c = '-' := by
  rw [isIntegerLiteral, Bool.and_eq_true, List.all_eq_true] at literal
  split at literal
  · next signed =>
      rw [← List.cons_head?_tail signed, List.mem_cons] at present
      exact present.symm.imp_left (literal.2 c)
  · exact Or.inl (literal.2 c present)

theorem isIntegerLiteral_display_iff {bound : Json} (integer : Schema.isInteger bound = true) :
    Text.isIntegerLiteral bound.display = true ↔ ∃ value, bound = .int value := by
  cases bound with
  | int value => exact iff_of_true (Text.isIntegerLiteral_toString value) ⟨value, rfl⟩
  | float x =>
      obtain ⟨value, whole⟩ := Option.isSome_iff_exists.1 integer
      obtain ⟨negative, significand, exponent, rfl⟩ := Binary64.exists_finite_of_toInt? whole
      refine iff_of_false (fun literal => ?_) (by simp)
      rcases Binary64.marked_text negative significand exponent with point | letter
      · rcases Text.mem_isIntegerLiteral literal point with digit | sign
        · cases digit
        · cases sign
      · rcases Text.mem_isIntegerLiteral literal letter with digit | sign
        · cases digit
        · cases sign
  | _ => cases integer

/-- What the texts of a comparison need of an argument. -/
structure Arg.Gauged (arg : Arg) : Prop where
  unquoted : '"' ∉ arg.name.toList
  unexpanded : '%' ∉ arg.name.toList
  bounds : ∀ bound ∈ arg.minimum.toList ++ arg.maximum.toList, Schema.isInteger bound = true

/-- A view of a numbered pass that does not depend on the numbers. -/
theorem filterMap_flatMap_zipIdx {α β γ : Type} {view : β → Option γ} {step : α × Nat → List β}
    {expected : α → List γ} {xs : List α}
    (each : ∀ x ∈ xs, ∀ index, (step (x, index)).filterMap view = expected x) (start : Nat) :
    ((xs.zipIdx start).flatMap step).filterMap view = xs.flatMap expected := by
  induction xs generalizing start with
  | nil => rfl
  | cons x xs ih =>
      have rest := ih (fun other present => each other (List.mem_cons_of_mem x present)) (start + 1)
      rw [List.zipIdx_cons, List.flatMap_cons, List.flatMap_cons, List.filterMap_append, rest,
        each x List.mem_cons_self]

/-! ## Bash -/

namespace Bash

/-- The comparison that a statement makes, as its lines read. -/
def comparison? (statement : Statement) : Option Comparison := do
  let (condition, _) ← conditional? statement.lines
  let test ← Text.between? "[ \"$" "\" ]" condition
  match Text.upTo? '"' test.toList with
  | some (name, ' ' :: limit) => (limit? limit).map (⟨String.ofList name, ·⟩)
  | _ => none

theorem comparison?_eq {statement : Statement} {name condition limit : String} {body : List String}
    (unquoted : '"' ∉ name.toList) (read : conditional? statement.lines = some (condition, body))
    (split : condition = "[ \"$" ++ (name ++ "\" " ++ limit) ++ "\" ]") :
    comparison? statement = (limit? limit.toList).map (⟨name, ·⟩) := by
  have found := Text.upTo?_append unquoted (' ' :: limit.toList)
  rw [comparison?, read, split]
  simp [Text.between?_append, found]

theorem comparison?_below {name : String} (unquoted : '"' ∉ name.toList)
    (bound message : String) :
    comparison? (.reject (.below name bound) message) = some ⟨name, .below bound⟩ := by
  have split : (Test.below name bound).condition =
      "[ \"$" ++ (name ++ "\" " ++ ("-lt \"" ++ bound)) ++ "\" ]" := by
    simp [Test.condition, toString, ← String.toList_inj]
  rw [comparison?_eq unquoted (conditional?_reject _ _) split]
  simp [limit?]

theorem comparison?_reaches {name : String} (unquoted : '"' ∉ name.toList)
    (bound message : String) :
    comparison? (.reject (.reaches name bound) message) = some ⟨name, .reaches bound⟩ := by
  have split : (Test.reaches name bound).condition =
      "[ \"$" ++ (name ++ "\" " ++ ("-ge \"" ++ bound)) ++ "\" ]" := by
    simp [Test.condition, toString, ← String.toList_inj]
  rw [comparison?_eq unquoted (conditional?_reject _ _) split]
  simp [limit?]

theorem comparison?_notNumeral (name message : String) :
    comparison? (.reject (.notNumeral name) message) = none := by
  have other : Text.between? "[ \"$" "\" ]" (Test.notNumeral name).condition = none :=
    Text.between?_eq_none (by simp [Test.condition, toString]) "\" ]"
  rw [comparison?, conditional?_reject]
  simp [other]

theorem comparison?_supply {name : String} (unquoted : '"' ∉ name.toList) (source : Supply) :
    comparison? (.supply name source) = none := by
  have split : s!"[ \"${name}\" == \"\" ]" = "[ \"$" ++ (name ++ "\" " ++ "== \"") ++ "\" ]" := by
    simp [toString, ← String.toList_inj]
  rw [comparison?_eq unquoted (conditional?_supply _ _) split]
  rfl

theorem comparison?_gate (level : String) : comparison? (.gate level) = none := by
  have line : s!"if [ \"$AUTH_LEVEL\" != \"{level}\" ];" =
      "if " ++ ("[ \"$" ++ ("AUTH_LEVEL" ++ "\" " ++ ("!= \"" ++ level)) ++ "\" ]") ++ ";" := by
    simp [toString, ← String.toList_inj]
  have read : conditional? (Statement.gate level).lines =
      some ("[ \"$" ++ ("AUTH_LEVEL" ++ "\" " ++ ("!= \"" ++ level)) ++ "\" ]",
        [s!"auth_{level} || return 1"]) := by
    rw [Statement.lines, line]
    exact conditional?_eq _ _
  rw [comparison?_eq (by decide) read rfl]
  simp [limit?]

theorem comparison?_single {statement : Statement} {line : String}
    (single : statement.lines = [line]) : comparison? statement = none := by
  have unconditional : conditional? [line] = none := by
    cases found : Text.between? "if " ";" line with
    | none => simp [conditional?, found]
    | some condition => simp [conditional?, found, List.isPrefixOf?]
  rw [comparison?, single, unconditional]
  rfl

theorem filterMap_argTests {arg : Arg} (unquoted : '"' ∉ arg.name.toList) :
    (argTests arg).filterMap comparison? = arg.comparisons := by
  have lower := comparison?_below unquoted
  have upper := comparison?_reaches unquoted
  rw [argTests, List.filterMap_append, List.filterMap_append, Arg.comparisons]
  cases minimum : arg.minimum with
  | none =>
      cases maximum : arg.maximum with
      | none => simp [Arg.hasBounds, minimum, maximum]
      | some bound => simp [Arg.hasBounds, minimum, maximum, comparison?_notNumeral, upper]
  | some bound =>
      cases maximum : arg.maximum with
      | none => simp [Arg.hasBounds, minimum, maximum, comparison?_notNumeral, lower]
      | some bound => simp [Arg.hasBounds, minimum, maximum, comparison?_notNumeral, lower, upper]

theorem filterMap_argChecks {args : List Arg} (unquoted : ∀ arg ∈ args, '"' ∉ arg.name.toList) :
    (argChecks args).filterMap comparison? = args.flatMap Arg.comparisons := by
  have comment : comparison? (.line "# Argument validation.") = none := comparison?_single rfl
  unfold argChecks
  split
  · next empty => simp [List.isEmpty_iff.1 empty]
  · rw [List.filterMap_cons_none comment]
    refine filterMap_flatMap_zipIdx (fun arg present index => ?_) 1
    have here := unquoted arg present
    have bound : comparison? (.bind arg.name index) = none := comparison?_single rfl
    simp [argCheck, bound, comparison?_supply here, filterMap_argTests here]

theorem filterMap_gates (access : Option Json) : (gates access).filterMap comparison? = [] := by
  cases access with
  | none => rfl
  | some level => exact List.filterMap_cons_none (comparison?_gate _)

theorem filterMap_bodyStatements (plan : MenuPlan) (planned : PlannedCommand) :
    (bodyStatements plan planned).filterMap comparison? = [] := by
  have single : ∀ statement ∈ bodyStatements plan planned, ∃ line, statement.lines = [line] := by
    intro statement present
    unfold bodyStatements at present
    split at present
    · obtain ⟨line, _, rfl⟩ := List.mem_map.1 present
      exact ⟨line, rfl⟩
    · rw [List.mem_singleton.1 present]
      exact ⟨_, rfl⟩
    · obtain ⟨line, _, rfl⟩ := List.mem_map.1 present
      exact ⟨line, rfl⟩
    · rcases List.mem_cons.1 present with rfl | last
      · exact ⟨_, rfl⟩
      · rw [List.mem_singleton.1 last]
        exact ⟨_, rfl⟩
  rw [List.filterMap_eq_nil_iff]
  intro statement present
  obtain ⟨line, lines⟩ := single statement present
  exact comparison?_single lines

theorem filterMap_arm {plan : MenuPlan} {planned : PlannedCommand}
    (unquoted : ∀ arg ∈ planned.command.args, '"' ∉ arg.name.toList) :
    (arm plan planned).body.filterMap comparison? =
      if planned.isSupported then planned.command.args.flatMap Arg.comparisons else [] := by
  simp only [arm, List.filterMap_append, filterMap_bodyStatements, List.append_nil]
  split
  · rw [List.filterMap_append, filterMap_gates, filterMap_argChecks unquoted, List.nil_append]
  · rfl

end Bash

/-! ## Batch -/

namespace Batch

/-- A variable that is compared with a bound, as the condition reads. -/
def Condition.comparison? (condition : Condition) : Option Comparison :=
  match Text.enclosed? '%' condition.source.toList with
  | some (name, ' ' :: limit) => (limit? limit).map (⟨String.ofList name, ·⟩)
  | _ => none

/-- The comparison that a statement depends on. -/
def Statement.comparison? : Statement → Option Comparison
  | .assignIf condition _ _ => condition.comparison?
  | .jumpIf condition _ => condition.comparison?
  | .failIf condition _ => condition.comparison?
  | _ => none

theorem Condition.comparison?_below {name : String} (unexpanded : '%' ∉ name.toList)
    (bound : String) :
    (Condition.below name bound).comparison? = some ⟨name, .below bound⟩ := by
  have split : (Condition.below name bound).source.toList =
      '%' :: name.toList ++ '%' :: ' ' :: 'L' :: 'S' :: 'S' :: ' ' :: bound.toList := by
    simp [source, toString]
  rw [comparison?, split, Text.enclosed?_append unexpanded]
  simp [limit?]

theorem Condition.comparison?_reaches {name : String} (unexpanded : '%' ∉ name.toList)
    (bound : String) :
    (Condition.reaches name bound).comparison? = some ⟨name, .reaches bound⟩ := by
  have split : (Condition.reaches name bound).source.toList =
      '%' :: name.toList ++ '%' :: ' ' :: 'G' :: 'E' :: 'Q' :: ' ' :: bound.toList := by
    simp [source, toString]
  rw [comparison?, split, Text.enclosed?_append unexpanded]
  simp [limit?]

/-- Only the conditions on bounds begin with the value of a variable. -/
theorem Condition.comparison?_eq_none {condition : Condition}
    (apart : condition.source.toList.head? ≠ some '%') : condition.comparison? = none := by
  unfold comparison?
  cases chars : condition.source.toList with
  | nil => rfl
  | cons c rest =>
      have other : c ≠ '%' := fun same => apart (by simp [chars, same])
      simp [Text.enclosed?, other]

@[simp] theorem Condition.comparison?_token (word : String) (same : Bool) :
    (Condition.token word same).comparison? = none := by
  refine comparison?_eq_none ?_
  cases same with
  | false => simp [source, toString]
  | true => simp [source, toString]

@[simp] theorem Condition.comparison?_variable (name value : String) (same : Bool) :
    (Condition.variable name value same).comparison? = none := by
  refine comparison?_eq_none ?_
  cases same with
  | false => simp [source, toString]
  | true => simp [source, toString]

@[simp] theorem Condition.comparison?_defined (name : String) :
    (Condition.defined name).comparison? = none :=
  comparison?_eq_none (by simp [source, toString])

theorem filterMap_argTests {arg : Arg} (unexpanded : '%' ∉ arg.name.toList) :
    (argTests arg).filterMap Statement.comparison? = arg.comparisons := by
  have lower := Condition.comparison?_below unexpanded
  have upper := Condition.comparison?_reaches unexpanded
  rw [argTests, List.filterMap_append, List.filterMap_append, Arg.comparisons]
  cases minimum : arg.minimum with
  | none =>
      cases maximum : arg.maximum with
      | none => simp [Arg.hasBounds, minimum, maximum]
      | some bound =>
          simp [Arg.hasBounds, minimum, maximum, Statement.comparison?, upper]
  | some bound =>
      cases maximum : arg.maximum with
      | none =>
          simp [Arg.hasBounds, minimum, maximum, Statement.comparison?, lower]
      | some bound =>
          simp [Arg.hasBounds, minimum, maximum, Statement.comparison?, lower,
            upper]

theorem filterMap_argCheck {arg : Arg} (unexpanded : '%' ∉ arg.name.toList) (position : Nat)
    (label : String) :
    (argCheck arg position label).filterMap Statement.comparison? = arg.comparisons := by
  have supplied : (argSupply arg).comparison? = none := by
    unfold argSupply
    cases arg.fallback with
    | some value => rfl
    | none => rfl
  have skip : (Statement.jumpIf (.variable arg.name "" false) label).comparison? = none :=
    Condition.comparison?_variable arg.name "" false
  rw [argCheck, List.filterMap_cons_none rfl, List.filterMap_cons_none skip,
    List.filterMap_cons_none supplied, List.filterMap_cons_none rfl, filterMap_argTests unexpanded]

theorem filterMap_argChecks {args : List Arg} (unexpanded : ∀ arg ∈ args, '%' ∉ arg.name.toList)
    (menu : String) (index : Nat) :
    (argChecks menu index args).filterMap Statement.comparison? = args.flatMap Arg.comparisons := by
  unfold argChecks
  split
  · next empty => simp [List.isEmpty_iff.1 empty]
  · rw [List.filterMap_cons_none rfl]
    exact filterMap_flatMap_zipIdx
      (fun arg present _ => filterMap_argCheck (unexpanded arg present) _ _) 2

theorem filterMap_gates (menu : String) (index : Nat) (access : Option Json) :
    (gates menu index access).filterMap Statement.comparison? = [] := by
  cases access with
  | none => rfl
  | some level => simp [gates, Statement.comparison?]

theorem filterMap_matcher (command : Command) (past : String) :
    (matcher command past).filterMap Statement.comparison? = [] := by
  unfold matcher
  split
  · simp [Statement.comparison?]
  · simp [Statement.comparison?, or_imp, forall_and]

theorem filterMap_helpStatements (plan : MenuPlan) :
    (helpStatements plan).filterMap Statement.comparison? = [] := by
  rw [helpStatements, List.filterMap_flatMap, List.flatMap_eq_nil_iff]
  intro part _
  simp only
  split
  · simp [Statement.comparison?]
  · simp [Statement.comparison?, or_imp, forall_and]

theorem filterMap_bodyStatements (plan : MenuPlan) (levels : List Int) (planned : PlannedCommand) :
    Ends (fun body => body.filterMap Statement.comparison? = []) (fun _ => True)
      (bodyStatements plan levels planned) := by
  unfold bodyStatements
  simp only
  split
  · next builtin _ =>
      cases builtin with
      | help => exact Ends.ok (filterMap_helpStatements plan)
      | auth =>
          refine Ends.ok ?_
          simp [authBody, Statement.comparison?, or_imp, forall_and]
      | catchAll => exact trivial
      | _ => exact Ends.ok rfl
  · exact Ends.ok rfl
  · refine Ends.ok ?_
    simp [Statement.comparison?]
  · refine Ends.ok ?_
    simp [Statement.comparison?]

theorem filterMap_block {plan : MenuPlan} {levels : List Int} {index : Nat}
    {planned : PlannedCommand}
    (unexpanded : ∀ arg ∈ planned.command.args, '%' ∉ arg.name.toList) :
    Ends (fun block => block.statements.filterMap Statement.comparison? =
      if planned.isSupported then planned.command.args.flatMap Arg.comparisons else [])
      (fun _ => True) (block plan levels index planned) := by
  refine Ends.bind (Ends.any _) fun _ _ =>
    Ends.bind (filterMap_bodyStatements plan levels planned) fun body none => Ends.ok ?_
  rw [Block.statements, List.cons_append, List.cons_append, List.filterMap_cons_none rfl,
    List.filterMap_append, List.filterMap_append, List.filterMap_append, filterMap_matcher, none]
  split
  · rw [List.filterMap_append, filterMap_gates, filterMap_argChecks unexpanded]
    simp [Statement.comparison?]
  · rfl

end Batch

/-! ## Documents -/

theorem Arg.Typed.gauged {arg : Arg} (typed : arg.Typed) : arg.Gauged := by
  have named := (identifier_whole typed.named).chomped
  have chars : ∀ c ∈ arg.name.toList, (c.isAlphanum = true ∨ c = '_') ∨ c = '\n' := by
    intro c present
    rcases Text.eq_chomp_or arg.name with same | same
    · rw [same] at present
      exact Or.inl (Text.isWordChar_of_mem named present)
    · rw [same, String.toList_append, List.mem_append] at present
      exact present.imp (Text.isWordChar_of_mem named) fun last => by simpa using last
  refine ⟨fun present => ?_, fun present => ?_, fun bound present => ?_⟩
  · exact absurd (chars _ present) (by decide)
  · exact absurd (chars _ present) (by decide)
  · simp only [List.mem_append, Option.mem_toList] at present
    exact present.elim (typed.minimum bound) (typed.maximum bound)

theorem Table.gauged_of_mem {menu : Menu} {levels : List Int} (typed : menu.Typed)
    {command : Command} (present : command ∈ Table.ofMenu menu levels) :
    ∀ arg ∈ command.args, arg.Gauged := by
  rcases mem_ofMenu present with declared | builtin
  · exact fun arg inside => ((typed.commands command declared).args arg inside).gauged
  · rw [builtins_eq_append, List.mem_append, List.mem_singleton] at builtin
    rcases builtin with called | rfl
    · rcases eq_of_mem_named called with rfl | rfl | rfl | rfl
      · simp [clear]
      · simp [exit]
      · simp [help]
      · intro arg only
        rw [List.mem_singleton.1 only]
        exact ⟨by simp, by simp, by simp [Schema.isInteger]⟩
    · simp [catchAll]

/-- The comparisons in both scripts are those of the declared bounds with their texts, and such a
text is an integer literal exactly if the document writes the bound as an integer. -/
theorem bound_literal_iff_written_as_integer (payload : Json) (source : String) (spec : Spec)
    (accepted : Schema.description.violations payload = [])
    (read : Spec.ofJson payload source = .ok spec)
    (menu : Menu) (declared : menu ∈ spec.menus) (fragments : Fragments) :
    (∀ planned ∈ (MenuPlan.ofMenu menu spec.levels .bash fragments).commands,
      (Bash.arm (MenuPlan.ofMenu menu spec.levels .bash fragments) planned).body.filterMap
          Bash.comparison? =
        if planned.isSupported then planned.command.args.flatMap Arg.comparisons else []) ∧
    (∀ planned ∈ (MenuPlan.ofMenu menu spec.levels .batch fragments).commands, ∀ index,
      (payload.WithinDigits → planned.command.isCatchAll = false → ∃ block, Batch.block
        (MenuPlan.ofMenu menu spec.levels .batch fragments) spec.levels index planned = .ok block) ∧
      ∀ block, Batch.block (MenuPlan.ofMenu menu spec.levels .batch fragments) spec.levels
          index planned = .ok block →
        block.statements.filterMap Batch.Statement.comparison? =
          if planned.isSupported then planned.command.args.flatMap Arg.comparisons else []) ∧
    ∀ command ∈ Table.ofMenu menu spec.levels, ∀ arg ∈ command.args,
      ∀ bound ∈ arg.minimum.toList ++ arg.maximum.toList,
        (Text.isIntegerLiteral bound.display = true ↔ ∃ value, bound = .int value) := by
  have fits := Schema.violations_eq_nil_iff.1 accepted
  obtain ⟨typed, _⟩ := (Spec.ofJson_ends fits).of_eq_ok read
  have gauged : ∀ command ∈ Table.ofMenu menu spec.levels, ∀ arg ∈ command.args, arg.Gauged :=
    fun command present => Table.gauged_of_mem (typed.menus menu declared) present
  refine ⟨fun planned present => ?_,
    fun planned present index => ⟨fun within proper => ?_, fun block made => ?_⟩,
    fun command present arg inside bound given => ?_⟩
  · have table := gauged _ (MenuPlan.mem_commands present).1
    exact Bash.filterMap_arm fun arg inside => (table arg inside).unquoted
  · have writable := (Spec.ofJson_writable fits within read).menus menu declared
    obtain ⟨block, made, _⟩ := (Batch.block_ends writable present proper index).exists_ok
    exact ⟨block, made⟩
  · have table := gauged _ (MenuPlan.mem_commands present).1
    exact (Batch.filterMap_block fun arg inside => (table arg inside).unexpanded).of_eq_ok made
  · exact isIntegerLiteral_display_iff ((gauged command present arg inside).bounds bound given)

/-- A lower bound that has a point, and an upper one that has none. -/
def steppedCommand : Command where
  name := "go"
  description := "Go."
  args := [{ name := "steps"
             fallback := some (.int 2)
             minimum := some (.float (Binary64.ofInt 1))
             maximum := some (.int 10) }]
  bashBody := some (.single "echo")
  batchBody := some (.single "echo")

def steppedSpec : Spec :=
  demoSpec [steppedCommand] []

def steppedDocument : Json :=
  demoDocument [("go", .obj [
    ("description", .str "Go."),
    ("args", .obj [("steps", .obj [("default", .int 2),
      ("minValue", .float (Binary64.ofInt 1)), ("maxValue", .int 10)])]),
    ("bashCommand", .str "echo"), ("batchCommand", .str "echo")])] []

theorem steppedDocument_bound_not_literal :
    Schema.description.violations steppedDocument = [] ∧
    Spec.ofJson steppedDocument "cli.json" = .ok steppedSpec ∧
    ∃ menu ∈ steppedSpec.menus,
      (∃ planned ∈ (MenuPlan.ofMenu menu steppedSpec.levels .bash ⟨"sh", []⟩).commands,
        ⟨"steps", .below "1.0"⟩ ∈
          (Bash.arm (MenuPlan.ofMenu menu steppedSpec.levels .bash ⟨"sh", []⟩)
            planned).body.filterMap Bash.comparison?) ∧
      (∃ planned ∈ (MenuPlan.ofMenu menu steppedSpec.levels .batch ⟨"bat", []⟩).commands,
        ∃ index block, Batch.block (MenuPlan.ofMenu menu steppedSpec.levels .batch ⟨"bat", []⟩)
            steppedSpec.levels index planned = .ok block ∧
          ⟨"steps", .below "1.0"⟩ ∈ block.statements.filterMap Batch.Statement.comparison?) ∧
      Text.isIntegerLiteral "1.0" = false := by
  have accepted : Schema.description.violations steppedDocument = [] := by decide +kernel
  have read : Spec.ofJson steppedDocument "cli.json" = .ok steppedSpec := rfl
  have meets := bound_literal_iff_written_as_integer steppedDocument "cli.json" steppedSpec
    accepted read { name := "main", commands := [steppedCommand] } List.mem_cons_self
  have text : (Json.float (Binary64.ofInt 1)).display = "1.0" := by decide +kernel
  have pointed : ¬ ∃ value, Json.float (Binary64.ofInt 1) = .int value := by
    rintro ⟨value, same⟩
    cases same
  have listed : ⟨"steps", .below "1.0"⟩ ∈ steppedCommand.args.flatMap Arg.comparisons := by
    rw [← text]
    exact List.mem_cons_self
  have within : steppedDocument.WithinDigits := ⟨by decide +kernel, by decide +kernel⟩
  obtain ⟨exists_block, compared⟩ := (meets ⟨"bat", []⟩).2.1
    ⟨steppedCommand, .inline (.single "echo")⟩ List.mem_cons_self 0
  obtain ⟨block, made⟩ := exists_block within rfl
  refine ⟨accepted, read, { name := "main", commands := [steppedCommand] }, List.mem_cons_self,
    ⟨⟨steppedCommand, .inline (.single "echo")⟩, List.mem_cons_self, ?_⟩,
    ⟨⟨steppedCommand, .inline (.single "echo")⟩, List.mem_cons_self, 0, block, made, ?_⟩, ?_⟩
  · rw [(meets ⟨"sh", []⟩).1 ⟨steppedCommand, .inline (.single "echo")⟩ List.mem_cons_self]
    exact listed
  · rw [compared block made]
    exact listed
  · have literal := (meets ⟨"sh", []⟩).2.2 steppedCommand List.mem_cons_self _ List.mem_cons_self
      (.float (Binary64.ofInt 1)) List.mem_cons_self
    rw [text] at literal
    exact Bool.eq_false_iff.2 (mt literal.1 pointed)

end ShellMenu
