import ShellMenu.Proofs.Schema.Acceptance
import ShellMenu.Proofs.Schema.LevelKey
import ShellMenu.Spec.Reader

/-
  What the parts of a spec are like when the document it was read from was accepted. The reader
  itself asks for less; each part here has the kind of value that the schema grants it.
-/

namespace ShellMenu

structure Arg.Typed (arg : Arg) : Prop where
  named : Pattern.identifier.accepts arg.name = true
  fallback : ∀ value, arg.fallback = some value → Schema.isScalar value = true
  minimum : ∀ bound, arg.minimum = some bound → Schema.isInteger bound = true
  maximum : ∀ bound, arg.maximum = some bound → Schema.isInteger bound = true
  prompting : ∀ message, arg.promptMessage = some message → ∃ text, message = .str text

structure Command.Typed (command : Command) : Prop where
  named : Pattern.commandName.accepts command.name = true
  declared : command.builtin = none
  aliases : ∀ name ∈ command.aliases,
    ∃ text, name = .str text ∧ Pattern.commandName.accepts text = true
  args : ∀ arg ∈ command.args, arg.Typed
  access : ∀ level, command.access = some level →
    Schema.isInteger level = true ∧ Schema.isBelow 1 level = false
  script : ∀ name, command.script = some name →
    ∃ text, name = .str text ∧ Pattern.fileStem.accepts text = true

def Splash.Typed : Splash → Prop
  | .plain _ => True
  | .art _ _ color => ∀ name, color = some name → ∃ text, name = .str text

structure Menu.Typed (menu : Menu) : Prop where
  named : Pattern.identifier.accepts menu.name = true
  header : ∀ header, menu.header = some header → ∃ text, header = .str text
  lead : ∃ text, menu.lead = .str text
  splash : ∀ splash, menu.splash = some splash → splash.Typed
  commands : ∀ command ∈ menu.commands, command.Typed

structure AuthMethod.Typed (method : AuthMethod) : Prop where
  kind : method.kind = .str "hash"
  level : 1 ≤ method.level

theorem AuthMethod.Typed.hashed {method : AuthMethod} (typed : method.Typed) :
    method.kind.string? = some "hash" := by
  rw [typed.kind]
  rfl

/-! ## Arguments and commands -/

open Schema in
theorem Arg.ofJson_ends {name : String} {payload : Json}
    (named : Pattern.identifier.accepts name = true) (accepted : Schema.arg.Accepts payload) :
    Ends Arg.Typed Never (Arg.ofJson name payload) := by
  unfold Schema.arg at accepted
  have object : payload.checkArg = .ok () := by
    obtain ⟨members, rfl, _⟩ := accepts_record_iff.1 accepted
    rfl
  unfold Arg.ofJson
  rw [object]
  refine Ends.ok ⟨named, fun value found => ?_, fun bound found => ?_, fun bound found => ?_,
    fun message found => ?_⟩
  · exact accepts_scalar_iff.1 (accepted.member (by simp) found)
  · have fits : (Schema.integer none).Accepts bound := accepted.given (by simp) found
    exact (accepts_integer_iff.1 fits).1
  · have fits : (Schema.integer none).Accepts bound := accepted.given (by simp) found
    exact (accepts_integer_iff.1 fits).1
  · have fits : (Schema.text false none).Accepts message := accepted.given (by simp) found
    exact fits.exists_str

open Schema in
theorem aliases_ends {value : Option Json}
    (accepted : ∀ found, value = some found →
      (Schema.list (.text false (some Pattern.commandName))).Accepts found) :
    Ends (fun names => ∀ name ∈ names, ∃ text, name = .str text ∧
      Pattern.commandName.accepts text = true) Never (Json.listed value) := by
  cases value with
  | none => exact Ends.ok (by simp)
  | some found =>
      obtain ⟨items, rfl, each⟩ := accepts_list_iff.1 (accepted found rfl)
      refine Ends.ok fun name present => ?_
      obtain ⟨text, same, _, fits⟩ := accepts_text_iff.1 (each name present)
      exact ⟨text, same, fits _ rfl⟩

open Schema in
theorem Command.ofJson_ends {name : String} {payload : Json}
    (named : Pattern.commandName.accepts name = true) (accepted : Schema.command.Accepts payload) :
    Ends Command.Typed Never (Command.ofJson name payload) := by
  unfold Schema.command at accepted
  have arguments : ∀ found, payload.given? "args" = some found →
      (Schema.map false Pattern.identifier (.named "arg" Schema.arg)).Accepts found :=
    fun found given => accepted.given (by simp) given
  refine Ends.bind accepted.fields_ends fun _ _ => ?_
  refine Ends.bind (Accepts.entries_ends arguments) fun entries fitting => ?_
  have each : ∀ entry ∈ entries, Ends Arg.Typed Never (Arg.ofJson entry.1 entry.2) := by
    intro entry present
    obtain ⟨entryNamed, fits⟩ := fitting entry present
    exact Arg.ofJson_ends entryNamed (accepts_named_iff.1 fits)
  refine Ends.bind (Ends.mapM each) fun args typed => ?_
  refine Ends.bind (aliases_ends fun found given => accepted.given (by simp) given)
    fun aliases words => ?_
  refine Ends.ok ⟨named, rfl, words, typed, fun level found => ?_, fun script found => ?_⟩
  · have fits : (Schema.integer (some 1)).Accepts level := accepted.given (by simp) found
    obtain ⟨integer, above⟩ := accepts_integer_iff.1 fits
    exact ⟨integer, above 1 rfl⟩
  · have fits : (Schema.text false (some Pattern.fileStem)).Accepts script :=
      accepted.given (by simp) found
    obtain ⟨text, same, _, stem⟩ := accepts_text_iff.1 fits
    exact ⟨text, same, stem _ rfl⟩

/-! ## Menus -/

open Schema in
theorem Splash.ofJson_ends {value : Json} (accepted : value = .null ∨ Schema.splash.Accepts value) :
    Ends (fun splash => ∀ shown, splash = some shown → shown.Typed) Never
      (Splash.ofJson value) := by
  rcases accepted with rfl | accepted
  · exact Ends.ok (by simp)
  · obtain ⟨alternative, present, accepted⟩ := accepts_either_iff.1 accepted
    simp only [List.mem_cons, List.not_mem_nil, or_false] at present
    rcases present with rfl | rfl
    · obtain ⟨text, rfl⟩ := accepted.exists_str
      refine Ends.ok fun shown same => ?_
      cases same
      exact trivial
    · obtain ⟨members, same, _⟩ := accepts_record_iff.1 accepted
      have object : Splash.ofJson value = (do
          let text ← value.required "text"
          let font ← value.required "font"
          return some (.art text font (value.given? "color"))) := by
        rw [same]
        rfl
      rw [object]
      have text : Ends (Schema.text true none).Accepts Never (value.required "text") :=
        accepted.required_ends (by simp) (by simp)
      have font : Ends (Schema.text true none).Accepts Never (value.required "font") :=
        accepted.required_ends (by simp) (by simp)
      refine Ends.bind text fun text _ => Ends.bind font fun font _ => ?_
      refine Ends.ok fun shown same => ?_
      cases same
      intro name found
      have fits : (Schema.text false (some Pattern.color)).Accepts name :=
        accepted.given (by simp) found
      exact fits.exists_str

open Schema in
theorem Menu.ofJson_ends {name : String} {payload : Json}
    (named : Pattern.identifier.accepts name = true) (accepted : Schema.menu.Accepts payload) :
    Ends Menu.Typed Never (Menu.ofJson name payload) := by
  unfold Schema.menu at accepted
  have described : ∀ found, payload.given? "commands" = some found →
      (Schema.map false Pattern.commandName (.named "command" Schema.command)).Accepts found :=
    fun found given => accepted.given (by simp) given
  refine Ends.bind accepted.fields_ends fun _ _ => ?_
  refine Ends.bind (Accepts.entries_ends described) fun entries fitting => ?_
  have each : ∀ entry ∈ entries, Ends Command.Typed Never (Command.ofJson entry.1 entry.2) := by
    intro entry present
    obtain ⟨entryNamed, fits⟩ := fitting entry present
    exact Command.ofJson_ends entryNamed (accepts_named_iff.1 fits)
  refine Ends.bind (Ends.mapM each) fun commands typed => ?_
  refine Ends.bind (Splash.ofJson_ends ?_) fun splash shown => ?_
  · cases found : payload.given? "splash" with
    | none => exact Or.inl rfl
    | some value =>
        have fits : (Schema.named "splash" Schema.splash).Accepts value :=
          accepted.given (by simp) found
        exact Or.inr (accepts_named_iff.1 fits)
  refine Ends.ok ⟨named, fun header found => ?_, ?_, shown, typed⟩
  · have fits : (Schema.text false none).Accepts header := accepted.given (by simp) found
    exact fits.exists_str
  · cases found : (payload.given? "prefix").filter Json.isSomething with
    | none => exact ⟨"> ", by simp only [Option.getD_none]⟩
    | some lead =>
        obtain ⟨given, _⟩ := Option.filter_eq_some_iff.1 found
        have fits : (Schema.text false none).Accepts lead := accepted.given (by simp) given
        obtain ⟨text, same⟩ := fits.exists_str
        exact ⟨text, by simp only [Option.getD_some, same]⟩

/-! ## Access levels -/

/-- The names of the access levels as the document spells them. -/
def Json.levelKeys (payload : Json) : List String :=
  match payload.given? "auth" with
  | some (.obj members) => members.map Prod.fst
  | _ => []

/-- The one breakdown that is left: a level with more digits than an integer can have. -/
def LongLevel (keys : List String) (error : Error) : Prop :=
  ∃ key ∈ keys, Text.mostDigits < key.length ∧ error = .breakdown (.malformedInteger key)

/-- The level has no more digits than its key. -/
def AuthMethod.FitsKey (keys : List String) (method : AuthMethod) : Prop :=
  ∃ key ∈ keys, method.level < Nat.pow 10 key.length

open Schema in
theorem AuthMethod.ofJson_ends {keys : List String} {key : String} {payload : Json}
    (present : key ∈ keys) (named : Pattern.level.accepts key = true)
    (accepted : Schema.authMethod.Accepts payload) :
    Ends (fun method => method.Typed ∧ method.FitsKey keys) (LongLevel keys)
      (AuthMethod.ofJson key payload) := by
  unfold Schema.authMethod at accepted
  have kind : Ends (Schema.choice ["hash"]).Accepts Never (payload.required "type") :=
    accepted.required_ends (by simp) (by simp)
  have hash : Ends (Schema.text false (some Pattern.digest)).Accepts Never
      (payload.required "hash") :=
    accepted.required_ends (by simp) (by simp)
  unfold AuthMethod.ofJson
  rcases Text.integer?_of_level named with ⟨level, read, positive, small⟩ | ⟨unread, long⟩
  · rw [read]
    refine Ends.bind kind.of_never fun kind choice => Ends.bind hash.of_never fun hash _ => ?_
    obtain ⟨text, only, same⟩ := accepts_choice_iff.1 choice
    refine Ends.ok ⟨⟨?_, ?_⟩, key, present, ?_⟩
    · rw [same, List.mem_singleton.1 only]
    · exact Int.ofNat_le.2 positive
    · exact Int.ofNat_lt.2 small
  · rw [unread]
    exact ⟨key, present, long, rfl⟩

theorem AuthTable.mem_of_mem_ofList {method : AuthMethod} {methods : List AuthMethod}
    (present : method ∈ (AuthTable.ofList methods).methods) : method ∈ methods := by
  have kept : ∀ (rest : List AuthMethod) (table : AuthTable),
      method ∈ (rest.foldl AuthTable.insert table).methods →
        method ∈ table.methods ∨ method ∈ rest := by
    intro rest
    induction rest with
    | nil => exact fun _ found => Or.inl found
    | cons next rest ih =>
        intro table found
        rcases ih (table.insert next) found with inside | later
        · rcases AuthMethod.mem_insertInto inside with same | before
          · exact Or.inr (same ▸ List.mem_cons_self)
          · exact Or.inl before
        · exact Or.inr (List.mem_cons_of_mem next later)
  rcases kept methods {} present with inside | later
  · cases inside
  · exact later

open Schema in
theorem AuthTable.ofJson_ends {payload : Json}
    (accepted : ∀ found, payload.given? "auth" = some found →
      (Schema.map false Pattern.level (.named "authMethod" Schema.authMethod)).Accepts found) :
    Ends (fun table => ∀ method ∈ table.methods, method.Typed ∧ method.FitsKey payload.levelKeys)
      (LongLevel payload.levelKeys) (AuthTable.ofJson (payload.given? "auth")) := by
  refine Ends.bind ((Accepts.entries_ends accepted).of_never.and (Json.entries_ends _))
    fun entries ⟨fitting, places⟩ => ?_
  have each : ∀ entry ∈ entries,
      Ends (fun method => method.Typed ∧ method.FitsKey payload.levelKeys)
        (LongLevel payload.levelKeys) (AuthMethod.ofJson entry.1 entry.2) := by
    intro entry present
    obtain ⟨named, fits⟩ := fitting entry present
    obtain ⟨members, found, inside⟩ := places entry present
    have key : entry.1 ∈ payload.levelKeys := by
      simp only [Json.levelKeys, found]
      exact List.mem_map_of_mem inside
    exact AuthMethod.ofJson_ends key named (accepts_named_iff.1 fits)
  refine Ends.bind (Ends.mapM each) fun methods typed => ?_
  exact Ends.ok fun method present => typed method (mem_of_mem_ofList present)

/-! ## What the scripts rely on -/

theorem isKey_of_isInteger {value : Json} (integer : Schema.isInteger value = true) :
    value.isKey = true := by
  cases value with
  | int _ => rfl
  | float _ => rfl
  | _ => cases integer

theorem exists_location_of_isInteger {value : Json} (integer : Schema.isInteger value = true) :
    ∃ location, value.location? = some location := by
  cases value with
  | int number => exact ⟨_, rfl⟩
  | float number =>
      cases number with
      | finite negative significand exponent =>
          simp only [Json.location?, Binary64.fraction?]
          split
          · exact ⟨_, rfl⟩
          · exact ⟨_, rfl⟩
      | infinite negative => exact ⟨_, rfl⟩
      | nan => exact ⟨_, rfl⟩
  | _ => cases integer

theorem exists_atLeast_of_isInteger {left right : Json} (leftInteger : Schema.isInteger left = true)
    (rightInteger : Schema.isInteger right = true) :
    ∃ answer, left.atLeast? right = some answer := by
  obtain ⟨leftPlace, leftFound⟩ := exists_location_of_isInteger leftInteger
  obtain ⟨rightPlace, rightFound⟩ := exists_location_of_isInteger rightInteger
  have numbers : left.atLeast? right = Json.numberAtLeast? left right := by
    cases left with
    | int _ => simp only [Json.atLeast?]
    | float _ => simp only [Json.atLeast?]
    | _ => cases leftInteger
  rw [numbers, Json.numberAtLeast?, leftFound, rightFound]
  exact ⟨_, rfl⟩

/-- An access level stands in the table of those that can be reached. -/
def Command.Reachable (levels : List Int) (command : Command) : Prop :=
  ∀ level, command.access = some level → declaresLevel levels level = true

theorem argProblems_ends {place : String} {arg : Arg} (typed : arg.Typed) :
    Ends (fun _ => True) Never (argProblems place arg) := by
  unfold argProblems
  cases lowFound : arg.minimum with
  | none => exact trivial
  | some low =>
      cases highFound : arg.maximum with
      | none => exact trivial
      | some high =>
          obtain ⟨answer, compared⟩ :=
            exists_atLeast_of_isInteger (typed.minimum low lowFound) (typed.maximum high highFound)
          simp only [compared]
          cases answer with
          | true => exact trivial
          | false => exact trivial

theorem accessProblems_reachable (levels : List Int) (place : String) (command : Command) :
    Ends (fun problems => problems = [] → command.Reachable levels) (fun _ => True)
      (accessProblems levels place command.access) := by
  cases asked : command.access with
  | none => exact Ends.ok fun _ level found => by simp [asked] at found
  | some level =>
      simp only [accessProblems]
      split
      · exact trivial
      · split
        · next reached =>
            refine Ends.ok fun _ other found => ?_
            cases asked.symm.trans found
            exact reached
        · exact Ends.ok fun none => by cases none

theorem commandProblems_ends {levels : List Int} {menu : String} {command : Command}
    (typed : command.Typed) :
    Ends (fun problems => problems = [] → command.Reachable levels) Never
      (commandProblems levels menu command) := by
  have access (place : String) : Ends (fun problems => problems = [] → command.Reachable levels)
      Never (accessProblems levels place command.access) := by
    have ended : Ends (fun _ => True) Never (accessProblems levels place command.access) := by
      cases asked : command.access with
      | none => exact trivial
      | some level =>
          have key := isKey_of_isInteger (typed.access level asked).1
          simp only [accessProblems, key, Bool.not_true, Bool.false_eq_true, if_false]
          split <;> exact trivial
    exact (ended.and (accessProblems_reachable levels place command)).mono
      (fun _ both => both.2) fun _ never => never
  refine Ends.bind (access _) fun problems reachable => ?_
  have each : ∀ place, ∀ arg ∈ command.args, Ends (fun _ => True) Never (argProblems place arg) :=
    fun place arg present => argProblems_ends (typed.args arg present)
  refine Ends.bind (Ends.mapM (each _)) fun others _ => ?_
  exact Ends.ok fun none => reachable (List.append_eq_nil_iff.1 none).1

theorem forall_of_flatten_eq_nil {α β : Type} {holds : α → Prop} {xs : List α} {ys : List (List β)}
    (all : List.Forall₂ (fun x y => y = [] → holds x) xs ys) (none : ys.flatten = []) :
    ∀ x ∈ xs, holds x := by
  induction all with
  | nil => simp
  | cons first _ ih =>
      obtain ⟨headNone, restNone⟩ := List.append_eq_nil_iff.1 none
      simpa using ⟨first headNone, ih restNone⟩

theorem specProblems_ends {mainMenu : Json} {menus : List Menu} {levels : List Int}
    (text : ∃ name, mainMenu = .str name) (typed : ∀ menu ∈ menus, menu.Typed) :
    Ends (fun problems => problems = [] →
        ∀ menu ∈ menus, ∀ command ∈ menu.commands, command.Reachable levels) Never
      (specProblems mainMenu menus levels) := by
  obtain ⟨name, rfl⟩ := text
  have main : Ends (fun _ => True) Never (mainMenuProblems (menus.map Menu.name) (.str name)) :=
    trivial
  have each : ∀ menu ∈ menus, Ends (fun problems => problems = [] →
      ∀ command ∈ menu.commands, command.Reachable levels) Never (menuProblems levels menu) := by
    intro menu present
    refine Ends.bind (Ends.mapM_forall₂ fun command inside =>
      commandProblems_ends ((typed menu present).commands command inside)) fun problems all => ?_
    exact Ends.ok (forall_of_flatten_eq_nil all)
  refine Ends.bind main fun problems _ => ?_
  refine Ends.bind (Ends.mapM_forall₂ each) fun others all => ?_
  exact Ends.ok fun none => forall_of_flatten_eq_nil all (List.append_eq_nil_iff.1 none).2

/-! ## Specs -/

structure Spec.Typed (spec : Spec) : Prop where
  menus : ∀ menu ∈ spec.menus, menu.Typed
  auth : ∀ method ∈ spec.auth.methods, method.Typed
  reachable : ∀ menu ∈ spec.menus, ∀ command ∈ menu.commands, command.Reachable spec.levels

/-- What a spec was read from: its table of levels, and a check of its menus without problems. -/
theorem Spec.exists_checked_of_read {payload : Json} {source : String} {spec : Spec}
    (read : Spec.ofJson payload source = .ok spec) :
    AuthTable.ofJson (payload.given? "auth") = .ok spec.auth ∧
      ∃ mainMenu, specProblems mainMenu spec.menus spec.levels = .ok [] := by
  unfold Spec.ofJson at read
  obtain ⟨_, _, read⟩ := exists_of_bind_eq_ok read
  obtain ⟨auth, table, read⟩ := exists_of_bind_eq_ok read
  obtain ⟨title, _, read⟩ := exists_of_bind_eq_ok read
  obtain ⟨uri, _, read⟩ := exists_of_bind_eq_ok read
  obtain ⟨mainMenu, _, read⟩ := exists_of_bind_eq_ok read
  obtain ⟨described, _, read⟩ := exists_of_bind_eq_ok read
  obtain ⟨entries, _, read⟩ := exists_of_bind_eq_ok read
  obtain ⟨menus, _, read⟩ := exists_of_bind_eq_ok read
  obtain ⟨problems, checked, read⟩ := exists_of_bind_eq_ok read
  split at read
  · cases read
    exact ⟨table, mainMenu, checked⟩
  · cases read

/-- What is known of a command without problems is known of every command of a spec. -/
theorem Spec.forall_command_of_read {payload : Json} {source : String} {spec : Spec}
    (read : Spec.ofJson payload source = .ok spec) {holds : Command → Prop}
    (each : ∀ menu command, Ends (fun problems => problems = [] → holds command) (fun _ => True)
      (commandProblems spec.levels menu command)) :
    ∀ menu ∈ spec.menus, ∀ command ∈ menu.commands, holds command := by
  obtain ⟨_, mainMenu, checked⟩ := exists_checked_of_read read
  have inside (menu : Menu) : Ends (fun problems => problems = [] →
      ∀ command ∈ menu.commands, holds command) (fun _ => True) (menuProblems spec.levels menu) :=
    Ends.bind (Ends.mapM_forall₂ fun command _ => each menu.name command) fun problems all =>
      Ends.ok (forall_of_flatten_eq_nil all)
  have whole : Ends (fun problems => problems = [] →
      ∀ menu ∈ spec.menus, ∀ command ∈ menu.commands, holds command) (fun _ => True)
      (specProblems mainMenu spec.menus spec.levels) :=
    Ends.bind (Ends.any _) fun main _ =>
      Ends.bind (Ends.mapM_forall₂ fun menu _ => inside menu) fun problems all =>
        Ends.ok fun none => forall_of_flatten_eq_nil all (List.append_eq_nil_iff.1 none).2
  exact whole.of_eq_ok checked rfl

theorem Spec.reachable_of_read {payload : Json} {source : String} {spec : Spec}
    (read : Spec.ofJson payload source = .ok spec) :
    ∀ menu ∈ spec.menus, ∀ command ∈ menu.commands, command.Reachable spec.levels := by
  refine forall_command_of_read read fun menu command => ?_
  refine Ends.bind (accessProblems_reachable _ _ command) fun problems reachable =>
    Ends.bind (Ends.any _) fun others _ => ?_
  exact Ends.ok fun none => reachable (List.append_eq_nil_iff.1 none).1

/-- Problems that only the whole spec shows are reported in the words of the schema. -/
def Refused (source : String) (error : Error) : Prop :=
  ∃ problems, error = .fault (.invalidSchema source problems)

open Schema in
theorem required_text_ends {required : List String} {fields : List (String × Schema)}
    {payload : Json} {name : String} (accepted : (Schema.record required fields).Accepts payload)
    (needed : name ∈ required)
    (declared : ∃ about, (name, Schema.described (.text true none) about) ∈ fields) :
    Ends (fun value => ∃ text, value = .str text) Never (payload.required name) := by
  obtain ⟨about, present⟩ := declared
  exact (accepted.required_ends needed present).mono
    (fun value fits => (accepts_described_iff.1 fits).exists_str) fun _ never => never

open Schema in
/-- An accepted document is read, refused with its problems, or has a level that is too long. -/
theorem Spec.ofJson_ends {payload : Json} {source : String}
    (accepted : Schema.description.Accepts payload) :
    Ends (fun spec => spec.Typed ∧ ∀ method ∈ spec.auth.methods, method.FitsKey payload.levelKeys)
      (fun error => Refused source error ∨ LongLevel payload.levelKeys error)
      (Spec.ofJson payload source) := by
  unfold Schema.description at accepted
  have levels : ∀ found, payload.given? "auth" = some found →
      (Schema.map false Pattern.level (.named "authMethod" Schema.authMethod)).Accepts found :=
    fun found given => accepted.given (by simp) given
  have described : Ends (Schema.map true Pattern.identifier (.named "menu" Schema.menu)).Accepts
      Never (payload.required "menus") :=
    accepted.required_ends (by simp) (by simp)
  refine Ends.bind accepted.fields_ends.of_never fun _ _ => ?_
  refine Ends.bind ((AuthTable.ofJson_ends levels).mono (fun _ holds => holds) fun _ => Or.inr)
    fun auth methods => ?_
  refine Ends.bind (required_text_ends accepted (by simp) (by simp)).of_never fun title _ => ?_
  refine Ends.bind (required_text_ends accepted (by simp) (by simp)).of_never fun uri _ => ?_
  refine Ends.bind (required_text_ends accepted (by simp) (by simp)).of_never
    fun mainMenu main => ?_
  refine Ends.bind described.of_never fun value fits => ?_
  obtain ⟨members, rfl, _, each⟩ := accepts_map_iff.1 fits
  have object : Ends (fun entries => ∀ entry ∈ entries, Ends Menu.Typed Never
      (Menu.ofJson entry.1 entry.2)) Never (Json.obj members).fields := by
    intro entry present
    obtain ⟨named, fits⟩ := each entry (Json.mem_of_mem_distinctMembers present)
    exact Menu.ofJson_ends named (accepts_named_iff.1 fits)
  refine Ends.bind object.of_never fun entries read => ?_
  refine Ends.bind (Ends.mapM read).of_never fun menus typed => ?_
  refine Ends.bind (specProblems_ends main typed).of_never fun problems reachable => ?_
  split
  · refine Ends.ok ⟨⟨typed, fun method present => (methods method present).1, reachable rfl⟩,
      fun method present => (methods method present).2⟩
  · exact Or.inl ⟨_, rfl⟩

end ShellMenu
