import ShellMenu.Batch.Routines
import ShellMenu.Proofs.Bash.Case
import ShellMenu.Proofs.Build.Totality
import ShellMenu.Proofs.Number.Text
import ShellMenu.Proofs.Spec.Demo
import ShellMenu.Proofs.Text.Reading

/-
  The gate before a command with an access level, and the routines that authenticate, each as its
  text reads. A level that the document writes as an integer opens its gate; the same number
  written as a double asks for a routine that is nowhere defined.
-/

namespace ShellMenu

/-- What a gate compares the level with, and the routine that it calls if they differ. -/
structure AccessGate where
  compared : String
  called : String
deriving DecidableEq, Repr

/-- The routine is defined, and what it stores is what the gate compares with. The routines come
with the text that they store. -/
def AccessGate.Served (gate : AccessGate) (routines : List (String × Option String)) : Prop :=
  gate.called ∈ routines.map Prod.fst ∧
    ∀ routine ∈ routines, routine.1 = gate.called → routine.2 = some gate.compared

/-- The routine of a level by its name, with the text that it stores. -/
def AuthMethod.storing (method : AuthMethod) : String × Option String :=
  ("auth_" ++ toString method.level, some (toString method.level))

/-- Reads the lines at the end of a routine, where it succeeds: the level is stored two lines above
the last one. -/
def storedAbove? (last opening closing code : String) : Option String :=
  match (Text.splitAt '\n' code).reverse with
  | found :: _ :: assignment :: _ =>
      if found = last then Text.between? opening closing assignment else none
  | _ => none

theorem storedAbove?_joinLines {front : List String} (nonempty : front ≠ [])
    {opening level closing told last : String}
    (assigned : '\n' ∉ (opening ++ level ++ closing).toList)
    (toldWhole : '\n' ∉ told.toList) (lastWhole : '\n' ∉ last.toList) :
    storedAbove? last opening closing
      (Text.joinLines (front ++ [opening ++ level ++ closing, told, last])) = some level := by
  rw [storedAbove?, Text.reverse_splitAt_joinLines nonempty assigned toldWhole lastWhole]
  simp only [if_true]
  exact Text.between?_append opening closing level

/-- Every routine is named after its level and stores it. It is enough to look at a method that
hashes, since no other is accepted. -/
theorem AuthMethod.mapM_storing {ρ : Type} (make : String → Json → String → Result ρ)
    (name : ρ → String) (stored : ρ → Option String)
    (each : ∀ level digest kind, NumeralText level → Json.string? kind = some "hash" →
      ∃ routine, make level kind digest = .ok routine ∧ name routine = "auth_" ++ level ∧
        stored routine = some level)
    {methods : List AuthMethod} (typed : ∀ method ∈ methods, method.Typed) :
    ∃ routines, methods.mapM (fun method =>
        make (toString method.level) method.kind method.digest) = .ok routines ∧
      routines.map (fun routine => (name routine, stored routine)) =
        methods.map AuthMethod.storing := by
  refine Ends.mapM_map_eq fun method present => ?_
  obtain ⟨routine, made, named, stores⟩ := each (toString method.level) method.digest method.kind
    (numeral_toString_int method.level) (typed method present).hashed
  rw [made]
  exact Ends.ok (congrArg₂ Prod.mk named stores)

/-! ## Bash -/

namespace Bash

/-- Reads the first lines of an arm. -/
def gate? (arm : Arm) : Option AccessGate :=
  match arm.body.flatMap Statement.lines with
  | condition :: "then" :: call :: "fi" :: _ => do
      let compared ← Text.between? "if [ \"$AUTH_LEVEL\" != \"" "\" ];" condition
      let called ← Text.between? "    " " || return 1" call
      return { compared, called }
  | _ => none

/-- The level that a routine stores. -/
def storedLevel? (routine : Routine) : Option String :=
  storedAbove? "return 0" "AUTH_LEVEL=" "" routine.code

theorem gate?_gate (description : String) (pattern : ArmPattern) (level : String)
    (rest : List Statement) :
    gate? ⟨description, pattern, .gate level :: rest⟩ = some ⟨level, "auth_" ++ level⟩ := by
  have lines : (Statement.gate level :: rest).flatMap Statement.lines =
      ("if [ \"$AUTH_LEVEL\" != \"" ++ level ++ "\" ];") :: "then"
        :: ("    " ++ ("auth_" ++ level ++ " || return 1")) :: "fi"
        :: rest.flatMap Statement.lines := rfl
  simp only [gate?, lines]
  rw [Text.between?_append, ← String.append_assoc, Text.between?_append]
  rfl

theorem newline_not_mem_doubleQuote {text : String} (whole : '\n' ∉ text.toList) :
    '\n' ∉ (doubleQuote text).toList := by
  intro present
  rcases mem_doubleQuote present with quote | escape | inside
  · cases quote
  · cases escape
  · exact whole inside

theorem storedLevel?_authLines {level : String} (numeral : NumeralText level)
    (name description digest : String) :
    storedLevel? (.ofLines name description (authLines level digest)) = some level := by
  have newline : '\n' ∉ level.toList := numeral.apart (by simp [IsNumeral])
  have told : '\n' ∉ (success s!"Authenticated to level {level} access.").toList := by
    have message : '\n' ∉ ("Authenticated to level " ++ level ++ " access.").toList := by
      simp [newline]
    simp [success, green, reset, Placeholder.braced, toString, newline_not_mem_doubleQuote message]
  obtain ⟨front, nonempty, lines⟩ : ∃ front, front ≠ [] ∧ authLines level digest = front ++
      ["AUTH_LEVEL=" ++ level ++ "", success s!"Authenticated to level {level} access.",
        "return 0"] := by
    rw [String.append_empty]
    exact ⟨_, by simp, rfl⟩
  rw [storedLevel?, Routine.ofLines, lines]
  exact storedAbove?_joinLines nonempty (by simp [newline]) told (by decide)

theorem authRoutines_eq {methods : List AuthMethod} (typed : ∀ method ∈ methods, method.Typed) :
    ∃ routines, methods.mapM authRoutine = .ok routines ∧
      routines.map (fun routine => (routine.name, storedLevel? routine)) =
        methods.map AuthMethod.storing :=
  AuthMethod.mapM_storing levelRoutine Routine.name storedLevel? (fun _ _ _ numeral hashed =>
    ⟨_, if_pos hashed, rfl, storedLevel?_authLines numeral _ _ _⟩) typed

end Bash

/-! ## Batch -/

namespace Batch

/-- Reads the first lines of a block. -/
def gate? (block : Block) : Option AccessGate :=
  match statementLines block.body with
  | condition :: setting :: call :: _ => do
      let rest ← "if \"%AUTH_LEVEL%\" == \"".toList.isPrefixOf? condition.toList
      let (compared, _) ← Text.upTo? '"' rest
      let called ← Text.between? "set func=" "" setting
      if call = "call :func_" ++ called then
        return { compared := String.ofList compared, called }
      else none
  | _ => none

/-- The level that a routine stores. -/
def storedLevel? (routine : Routine) : Option String :=
  storedAbove? "exit /b 0" "set \"AUTH_LEVEL=" "\"" routine.code

/-- A call without arguments ends in a blank, and trimming stops at the level. -/
theorem call_auth {level : String} (numeral : NumeralText level) :
    call ("auth_" ++ level) [] =
      ["set func=" ++ ("auth_" ++ level), "call :func_" ++ ("auth_" ++ level)] := by
  have solid : ∀ c, ("call :func_" ++ ("auth_" ++ level)).toList.getLast? = some c →
      Text.isBlank c = false := by
    intro c last
    rw [← String.append_assoc, String.toList_append, List.getLast?_append,
      Option.or_eq_some_iff] at last
    rcases last with inside | ⟨_, before⟩
    · exact (numeral c (List.mem_of_getLast? inside)).notBlank
    · cases before
      decide
  have trimmed : Text.trimEnd ("call :func_" ++ ("auth_" ++ level) ++ " ") =
      "call :func_" ++ ("auth_" ++ level) := by
    have space : ∀ c ∈ " ".toList, Text.isBlank c = true := List.forall_mem_singleton.2 rfl
    rw [Text.trimEnd, Text.trimEndWhere, String.toList_append, Text.trimEndChars_append solid space,
      String.ofList_toList]
  simp only [call, toString, String.intercalate_nil, String.append_empty]
  rw [trimmed]

theorem gate?_gates (description : String) (matcher : List Statement) (past : String)
    {access : Json} (numeral : NumeralText access.display) (menu : String) (index : Nat)
    (rest : List Statement) :
    gate? ⟨description, matcher, gates menu index (some access) ++ rest, past⟩ =
      some ⟨access.display, "auth_" ++ access.display⟩ := by
  have lines : statementLines (gates menu index (some access) ++ rest) =
      ("if " ++ (Condition.variable "AUTH_LEVEL" access.display true).source ++ " goto "
        ++ authorized menu index) :: (call ("auth_" ++ access.display) []
          ++ statementLines (.line "if errorlevel 1 exit /b 1" :: .label (authorized menu index)
            :: rest)) := by
    simp [statementLines, gates, Statement.lines, toString]
  have condition : ("if " ++ (Condition.variable "AUTH_LEVEL" access.display true).source
      ++ " goto " ++ authorized menu index).toList = "if \"%AUTH_LEVEL%\" == \"".toList ++
        (access.display.toList ++ '"' :: (" goto " ++ authorized menu index).toList) := by
    simp [Condition.source, toString]
  have quote : '"' ∉ access.display.toList := numeral.apart (by simp [IsNumeral])
  have named : Text.between? "set func=" "" ("set func=" ++ ("auth_" ++ access.display)) =
      some ("auth_" ++ access.display) := by
    simpa using Text.between?_append "set func=" "" ("auth_" ++ access.display)
  rw [gate?, lines, call_auth numeral]
  simp only [List.cons_append]
  rw [condition, List.isPrefixOf?_eq_some_iff_append_eq.2 rfl]
  simp [Text.upTo?_append quote, named]

theorem storedLevel?_authLines {level : String} (numeral : NumeralText level)
    (name description digest : String) :
    storedLevel? (.ofLines name description (authLines level digest)) = some level := by
  have newline : '\n' ∉ level.toList := numeral.apart (by simp [IsNumeral])
  obtain ⟨front, nonempty, lines⟩ : ∃ front, front ≠ [] ∧ authLines level digest = front ++
      ["set \"AUTH_LEVEL=" ++ level ++ "\"",
       "echo !GREEN!Authenticated to level " ++ level ++ " access.!RESET!", "exit /b 0"] :=
    ⟨_, by simp, (List.append_assoc _ [_, _, _, _, _, _] _).symm⟩
  rw [storedLevel?, Routine.ofLines, lines]
  exact storedAbove?_joinLines nonempty (by simp [newline]) (by simp [newline]) (by decide)

theorem authRoutines_eq {methods : List AuthMethod} (typed : ∀ method ∈ methods, method.Typed) :
    ∃ routines, methods.mapM authRoutine = .ok routines ∧
      routines.map (fun routine => (routine.name, storedLevel? routine)) =
        methods.map AuthMethod.storing :=
  AuthMethod.mapM_storing levelRoutine Routine.name storedLevel? (fun _ _ _ numeral hashed =>
    ⟨_, if_pos hashed, rfl, storedLevel?_authLines numeral _ _ _⟩) typed

end Batch

/-! ## Levels -/

theorem numeral_display {access : Json} (integer : Schema.isInteger access = true) :
    NumeralText access.display := by
  cases access with
  | int value => exact numeral_toString_int value
  | float x =>
      obtain ⟨value, whole⟩ := Option.isSome_iff_exists.1 integer
      obtain ⟨negative, significand, exponent, rfl⟩ := Binary64.exists_finite_of_toInt? whole
      exact Binary64.numeral_text negative significand exponent
  | _ => cases integer

/-- Levels are told apart by their texts, and only an integer has the text of a level: a double
keeps a mark in its text that no integer has. -/
theorem AccessGate.served_iff {methods : List AuthMethod} {access : Json}
    (integer : Schema.isInteger access = true)
    (declared : declaresLevel (methods.map AuthMethod.level) access = true) :
    (AccessGate.mk access.display ("auth_" ++ access.display)).Served
        (methods.map AuthMethod.storing) ↔
      ∃ level, access = .int level := by
  constructor
  · rintro ⟨defined, _⟩
    obtain ⟨pair, listed, same⟩ := List.mem_map.1 defined
    obtain ⟨method, _, rfl⟩ := List.mem_map.1 listed
    have text : toString method.level = access.display := String.append_right_inj _ |>.1 same
    cases access with
    | int level => exact ⟨level, rfl⟩
    | float x =>
        obtain ⟨value, whole⟩ := Option.isSome_iff_exists.1 integer
        exact absurd text.symm (Binary64.text_ne_toString whole method.level)
    | _ => cases integer
  · rintro ⟨level, rfl⟩
    constructor
    · have inside : level ∈ methods.map AuthMethod.level := by
        simpa [declaresLevel, Json.integer?] using declared
      obtain ⟨method, present, rfl⟩ := List.mem_map.1 inside
      refine List.mem_map.2 ⟨_, List.mem_map_of_mem present, rfl⟩
    · rintro pair listed same
      obtain ⟨method, _, rfl⟩ := List.mem_map.1 listed
      exact congrArg some (String.append_right_inj _ |>.1 same)

/-! ## Gates of a spec -/

theorem Bash.gate?_arm {plan : MenuPlan} {planned : PlannedCommand} {access : Json}
    (supported : planned.isSupported = true) (asked : planned.command.access = some access) :
    Bash.gate? (Bash.arm plan planned) = some ⟨access.display, "auth_" ++ access.display⟩ := by
  simp only [Bash.arm, supported, if_true, asked, Bash.gates, List.cons_append]
  exact Bash.gate?_gate _ _ _ _

theorem Batch.gate?_block {plan : MenuPlan} {levels : List Int} {index : Nat}
    {planned : PlannedCommand} {access : Json} (supported : planned.isSupported = true)
    (asked : planned.command.access = some access) (numeral : NumeralText access.display) :
    Ends (fun block => Batch.gate? block = some ⟨access.display, "auth_" ++ access.display⟩)
      (fun _ => True) (Batch.block plan levels index planned) := by
  simp only [Batch.block, supported, if_true, asked, List.append_assoc]
  refine Ends.bind (Ends.any _) fun _ _ => Ends.bind (Ends.any _) fun body _ => Ends.ok ?_
  exact Batch.gate?_gates _ _ _ numeral _ _ _

/-- In both dialects, the gate of a supported command calls a routine that is defined and that
stores what the gate compares with exactly if the document writes the level as an integer. -/
theorem gate_served_iff_written_as_integer (payload : Json) (source : String) (spec : Spec)
    (accepted : Schema.description.violations payload = [])
    (read : Spec.ofJson payload source = .ok spec)
    (menu : Menu) (declared : menu ∈ spec.menus) (fragments : Fragments) :
    (∀ planned ∈ (MenuPlan.ofMenu menu spec.levels .bash fragments).commands,
      planned.isSupported = true → ∀ access, planned.command.access = some access →
        ∃ gate routines,
          Bash.gate? (Bash.arm (MenuPlan.ofMenu menu spec.levels .bash fragments) planned) =
            some gate ∧
          spec.auth.methods.mapM Bash.authRoutine = .ok routines ∧
          (gate.Served (routines.map fun routine => (routine.name, Bash.storedLevel? routine)) ↔
            ∃ level, access = .int level)) ∧
    (∀ planned ∈ (MenuPlan.ofMenu menu spec.levels .batch fragments).commands,
      planned.isSupported = true → ∀ access, planned.command.access = some access →
        ∀ index,
          (payload.WithinDigits → ∃ block, Batch.block
            (MenuPlan.ofMenu menu spec.levels .batch fragments) spec.levels index planned =
              .ok block) ∧
          ∀ block, Batch.block (MenuPlan.ofMenu menu spec.levels .batch fragments) spec.levels
            index planned = .ok block →
          ∃ gate routines,
            Batch.gate? block = some gate ∧
            spec.auth.methods.mapM Batch.authRoutine = .ok routines ∧
            (gate.Served (routines.map fun routine => (routine.name, Batch.storedLevel? routine)) ↔
              ∃ level, access = .int level)) := by
  have fits := Schema.violations_eq_nil_iff.1 accepted
  obtain ⟨typed, _⟩ := (Spec.ofJson_ends fits).of_eq_ok read
  have level : ∀ dialect, ∀ planned ∈ (MenuPlan.ofMenu menu spec.levels dialect fragments).commands,
      ∀ access, planned.command.access = some access →
        Schema.isInteger access = true ∧ declaresLevel spec.levels access = true := by
    intro dialect planned present access asked
    have inside := Table.mem_commands_of_access (MenuPlan.mem_commands present).1 asked
    exact ⟨(((typed.menus menu declared).commands _ inside).access access asked).1,
      typed.reachable menu declared _ inside access asked⟩
  constructor
  · intro planned present supported access asked
    obtain ⟨integer, reached⟩ := level .bash planned present access asked
    obtain ⟨routines, written, stored⟩ := Bash.authRoutines_eq typed.auth
    refine ⟨_, routines, Bash.gate?_arm supported asked, written, ?_⟩
    rw [stored]
    exact AccessGate.served_iff integer reached
  · intro planned present supported access asked index
    obtain ⟨integer, reached⟩ := level .batch planned present access asked
    refine ⟨fun within => ?_, fun block made => ?_⟩
    · have writable := (Spec.ofJson_writable fits within read).menus menu declared
      have inside := Table.mem_commands_of_access (MenuPlan.mem_commands present).1 asked
      have proper : planned.command.isCatchAll = false := by
        simp [Command.isCatchAll, ((typed.menus menu declared).commands _ inside).declared]
      obtain ⟨block, made, _⟩ := (Batch.block_ends writable present proper index).exists_ok
      exact ⟨block, made⟩
    obtain ⟨routines, written, stored⟩ := Batch.authRoutines_eq typed.auth
    have gate := (Batch.gate?_block supported asked (numeral_display integer)).of_eq_ok made
    refine ⟨_, routines, gate, written, ?_⟩
    rw [stored]
    exact AccessGate.served_iff integer reached

/-- The number of the declared level, with a point. -/
def pointedCommand : Command where
  name := "go"
  description := "Go."
  access := some (.float (Binary64.ofInt 1))
  bashBody := some (.single "echo")
  batchBody := some (.single "echo")

def pointedSpec : Spec :=
  demoSpec [pointedCommand] [1]

def pointedDocument : Json :=
  demoDocument [("go", .obj [
    ("description", .str "Go."), ("access", .float (Binary64.ofInt 1)),
    ("bashCommand", .str "echo"), ("batchCommand", .str "echo")])] [demoAuth ["1"]]

theorem pointedDocument_gates_not_served :
    Schema.description.violations pointedDocument = [] ∧
    Spec.ofJson pointedDocument "cli.json" = .ok pointedSpec ∧
    ∃ menu ∈ pointedSpec.menus,
      (∃ planned ∈ (MenuPlan.ofMenu menu pointedSpec.levels .bash ⟨"sh", []⟩).commands,
        planned.isSupported = true ∧ ∃ gate routines,
          Bash.gate? (Bash.arm (MenuPlan.ofMenu menu pointedSpec.levels .bash ⟨"sh", []⟩) planned) =
            some gate ∧
          pointedSpec.auth.methods.mapM Bash.authRoutine = .ok routines ∧
          ¬ gate.Served (routines.map fun routine => (routine.name, Bash.storedLevel? routine))) ∧
      ∃ planned ∈ (MenuPlan.ofMenu menu pointedSpec.levels .batch ⟨"bat", []⟩).commands,
        planned.isSupported = true ∧ ∃ index block gate routines,
          Batch.block (MenuPlan.ofMenu menu pointedSpec.levels .batch ⟨"bat", []⟩)
            pointedSpec.levels index planned = .ok block ∧
          Batch.gate? block = some gate ∧
          pointedSpec.auth.methods.mapM Batch.authRoutine = .ok routines ∧
          ¬ gate.Served
            (routines.map fun routine => (routine.name, Batch.storedLevel? routine)) := by
  have accepted : Schema.description.violations pointedDocument = [] := by decide +kernel
  have read : Spec.ofJson pointedDocument "cli.json" = .ok pointedSpec := rfl
  have meets := gate_served_iff_written_as_integer pointedDocument "cli.json" pointedSpec
    accepted read { name := "main", commands := [pointedCommand] } List.mem_cons_self
  have pointed : ¬ ∃ level, Json.float (Binary64.ofInt 1) = .int level := by
    rintro ⟨level, same⟩
    cases same
  refine ⟨accepted, read, { name := "main", commands := [pointedCommand] }, List.mem_cons_self,
    ⟨⟨pointedCommand, .inline (.single "echo")⟩, List.mem_cons_self, rfl, ?_⟩,
    ⟨⟨pointedCommand, .inline (.single "echo")⟩, List.mem_cons_self, rfl, 0, ?_⟩⟩
  · obtain ⟨gate, routines, found, written, served⟩ := (meets ⟨"sh", []⟩).1
      ⟨pointedCommand, .inline (.single "echo")⟩ List.mem_cons_self rfl _ rfl
    exact ⟨gate, routines, found, written, mt served.1 pointed⟩
  · obtain ⟨gate, routines, found, written, served⟩ := (meets ⟨"bat", []⟩).2
      ⟨pointedCommand, .inline (.single "echo")⟩ List.mem_cons_self rfl _ rfl 0 |>.2 _ rfl
    exact ⟨_, gate, routines, rfl, found, written, mt served.1 pointed⟩

end ShellMenu
