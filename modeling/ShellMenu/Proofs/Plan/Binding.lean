import ShellMenu.Proofs.Plan.Arguments
import ShellMenu.Proofs.Schema.WholeNames

/-
  Which value an argument gets. The scripts refer to what was passed by its place, and a place with
  two digits is read as one digit and a text after it. An array has no such limit, and a call
  passes the arguments in the order in which they are declared.
-/

namespace ShellMenu

/-- What a routine is called with: the word for the command, and the values after it. -/
structure Passed where
  token : String
  values : List String

/-- The word that a parameter stands for. The first one is number one. -/
def parameter? (words : List String) : Nat → Option String
  | 0 => none
  | place + 1 => some (words.getD place "")

/-- A reference takes the first digit, and the others stand for themselves. -/
def reference? (words : List String) : List Char → Option (List Char)
  | [] => none
  | digit :: rest =>
      (parameter? words (Nat.ofDigitChars 10 [digit] 0)).map fun word => word.toList ++ rest

/-- Whatever is passed, the variable gets the value at the place. -/
def Binds (assignment : Option (String × String)) (expand : Passed → String → Option String)
    (name : String) (place : Nat) : Prop :=
  ∃ word, assignment = some (name, word) ∧
    ∀ passed, expand passed word = some (passed.values.getD place "")

/-! ## References -/

theorem reference?_of_le (words : List String) {number : Nat} (short : number ≤ 9) :
    reference? words (toString number).toList =
      (parameter? words number).map String.toList := by
  have single : Nat.toDigits 10 number = [number.digitChar] :=
    Nat.toDigits_of_lt_base (by omega)
  have value : Nat.ofDigitChars 10 [number.digitChar] 0 = number := by
    rw [← single]
    exact Nat.ofDigitChars_toDigits (by decide) (by decide)
  rw [toList_toString, single, reference?, value]
  simp

theorem reference?_ne_nil (words : List String) {number : Nat} (long : 9 < number) :
    reference? words (toString number).toList ≠ some [] := by
  have several : ¬ (Nat.toDigits 10 number).length ≤ 1 := by
    rw [Nat.length_toDigits_le_iff (by decide) (by decide)]
    omega
  rw [toList_toString]
  cases chars : Nat.toDigits 10 number with
  | nil => simp [reference?]
  | cons digit rest =>
      have more : rest ≠ [] := by
        intro none
        simp [chars, none] at several
      simp [reference?, more]

/-- Only a single digit is read whole. Where there are more, a call without values shows it: there
is nothing to bind, but the digits after the first are still there. -/
theorem binds_reference_iff {assignment : Option (String × String)}
    {expand : Passed → String → Option String} {name word : String} {place number : Nat}
    {words : Passed → List String} (written : assignment = some (name, word))
    (expands : ∀ passed, expand passed word =
      (reference? (words passed) (toString number).toList).map String.ofList)
    (aims : ∀ passed, parameter? (words passed) number = some (passed.values.getD place "")) :
    Binds assignment expand name place ↔ number ≤ 9 := by
  constructor
  · rintro ⟨other, same, binds⟩
    obtain rfl : word = other := by
      rw [written] at same
      exact congrArg Prod.snd (Option.some.inj same)
    by_contra long
    have empty := binds ⟨"", []⟩
    rw [expands, List.getD_nil, Option.map_eq_some_iff] at empty
    obtain ⟨chars, found, nothing⟩ := empty
    have none : chars = [] := by simpa using congrArg String.toList nothing
    exact reference?_ne_nil _ (Nat.lt_of_not_le long) (none ▸ found)
  · intro short
    refine ⟨word, written, fun passed => ?_⟩
    rw [expands, reference?_of_le _ short, aims]
    simp

/-! ## Bash -/

namespace Bash

/-- What a word can refer to. -/
structure Scope where
  parameters : List String := []
  parts : List String := []

/-- Where in a word the expansion is: in a text, after a dollar sign, or in braces that hold what
was read of a name. -/
inductive Position where
  | text
  | dollar
  | braced (name : List Char)

def number? (digits : List Char) : Option Nat :=
  if !digits.isEmpty && digits.all Char.isDigit then some (Nat.ofDigitChars 10 digits 0) else none

/-- Between braces, a number has all of its digits. -/
def Scope.braced? (scope : Scope) (name : List Char) : Option String :=
  match Text.between? "parts[" "]" (String.ofList name) with
  | some index => (number? index.toList).map (scope.parts.getD · "")
  | none => (number? name).bind (parameter? scope.parameters)

def expand (scope : Scope) : Position → List Char → Option (List Char)
  | .text, [] => some []
  | _, [] => none
  | .text, c :: rest =>
      if c = '$' then expand scope .dollar rest
      else if isSafe c then (expand scope .text rest).map (c :: ·)
      else none
  | .dollar, c :: rest =>
      if c = '\x7b' then expand scope (.braced []) rest
      else if c.isDigit then do
        let word ← parameter? scope.parameters (Nat.ofDigitChars 10 [c] 0)
        return word.toList ++ (← expand scope .text rest)
      else none
  | .braced name, c :: rest =>
      if c = '\x7d' then do
        let word ← scope.braced? name
        return word.toList ++ (← expand scope .text rest)
      else expand scope (.braced (name ++ [c])) rest

def expand? (scope : Scope) (word : String) : Option String :=
  (expand scope .text word.toList).map String.ofList

/-- A variable and the word that it is set to. -/
def assignment? (line : String) : Option (String × String) := do
  let (name, word) ← Text.upTo? '=' line.toList
  if Text.isIdentifier (String.ofList name) then
    return (String.ofList name, String.ofList word)
  else none

/-- The variable that a statement sets whatever the variable was before. -/
def bound? (statement : Statement) : Option (String × String) :=
  match statement.lines with
  | [line] => assignment? line
  | _ => none

theorem expand_digits (scope : Scope) {digits : List Char} (all : ∀ c ∈ digits, c.isDigit = true) :
    expand scope .text digits = some digits := by
  induction digits with
  | nil => rfl
  | cons c digits ih =>
      have digit := all c List.mem_cons_self
      have safe : isSafe c = true := isSafe_of_numeral (Or.inl digit)
      have text : c ≠ '$' := by
        rintro rfl
        cases digit
      have rest := ih fun d present => all d (List.mem_cons_of_mem c present)
      rw [expand, if_neg text, if_pos safe, rest]
      rfl

theorem expand?_reference (scope : Scope) (number : Nat) :
    expand? scope s!"${number}" =
      (reference? scope.parameters (toString number).toList).map String.ofList := by
  have chars : s!"${number}".toList = '$' :: (toString number).toList := by
    simp [toString]
  have all : ∀ c ∈ (toString number).toList, c.isDigit = true := fun c => isDigit_of_mem_toString
  rw [expand?, chars]
  cases digits : (toString number).toList with
  | nil => rfl
  | cons digit rest =>
      rw [digits] at all
      have first := all digit List.mem_cons_self
      have others := expand_digits scope fun c present => all c (List.mem_cons_of_mem digit present)
      have unbraced : digit ≠ '\x7b' := by
        rintro rfl
        cases first
      simp only [expand, if_pos, if_neg unbraced, first, others, reference?]
      cases parameter? scope.parameters (Nat.ofDigitChars 10 [digit] 0) with
      | none => rfl
      | some word => rfl

theorem expand_braced (scope : Scope) (name : List Char) {chars : List Char}
    (inside : '\x7d' ∉ chars) (rest : List Char) :
    expand scope (.braced name) (chars ++ '\x7d' :: rest) = do
      let word ← scope.braced? (name ++ chars)
      return word.toList ++ (← expand scope .text rest) := by
  induction chars generalizing name with
  | nil => rw [List.nil_append, List.append_nil, expand, if_pos rfl]
  | cons c chars ih =>
      have open_ : c ≠ '\x7d' := fun same => inside (same ▸ List.mem_cons_self)
      rw [List.cons_append, expand, if_neg open_,
        ih (name ++ [c]) fun present => inside (List.mem_cons_of_mem c present),
        List.append_assoc, List.singleton_append]

theorem number?_toString (n : Nat) : number? (toString n).toList = some n := by
  rw [number?, List.isEmpty_eq_false_iff.2 (toList_toString_ne_nil n),
    List.all_eq_true.2 fun c => isDigit_of_mem_toString, toList_toString,
    Nat.ofDigitChars_toDigits (by decide) (by decide)]
  rfl

theorem expand?_part (scope : Scope) (index : Nat) :
    expand? scope s!"$\x7bparts[{index}]\x7d" = some (scope.parts.getD index "") := by
  have chars : s!"$\x7bparts[{index}]\x7d".toList =
      '$' :: '\x7b' :: ("parts[" ++ toString index ++ "]").toList ++ ['\x7d'] := by
    simp [toString]
  have inside : '\x7d' ∉ ("parts[" ++ toString index ++ "]").toList := by
    intro present
    simp only [String.toList_append, List.mem_append] at present
    rcases present with (before | digits) | after
    · revert before
      decide
    · cases isDigit_of_mem_toString digits
    · revert after
      decide
  have element : scope.braced? ("parts[" ++ toString index ++ "]").toList =
      some (scope.parts.getD index "") := by
    rw [Scope.braced?, String.ofList_toList, Text.between?_append]
    exact congrArg (Option.map (scope.parts.getD · "")) (number?_toString index)
  rw [expand?, chars, List.cons_append, List.cons_append, expand, if_pos rfl, expand, if_pos rfl,
    expand_braced scope [] inside, List.nil_append, element]
  simp [expand]

/-! ### Assignments -/

theorem assignment?_eq {name : String} (named : Text.isIdentifier name = true) (word : String) :
    assignment? (name ++ "=" ++ word) = some (name, word) := by
  have free : '=' ∉ name.toList := by
    intro present
    exact absurd (Text.isWordChar_of_mem named present) (by decide)
  have found := Text.upTo?_append free word.toList
  rw [assignment?]
  simp [found, named]

theorem filterMap_bound?_argCheck {arg : Arg} (named : Text.isIdentifier arg.name = true)
    (index : Nat) :
    (argCheck arg index).filterMap bound? = [(arg.name, s!"$\x7bparts[{index}]\x7d")] := by
  have here : bound? (.bind arg.name index) = some (arg.name, s!"$\x7bparts[{index}]\x7d") := by
    have line : (Statement.bind arg.name index).lines =
        [arg.name ++ "=" ++ s!"$\x7bparts[{index}]\x7d"] := by
      simp [Statement.lines, toString, ← String.toList_inj]
    rw [bound?, line]
    exact assignment?_eq named _
  have supplied : bound? (.supply arg.name (argSupply arg)) = none := rfl
  have tested : (argTests arg).filterMap bound? = [] := by
    have rejected (test : Test) (message : String) : bound? (.reject test message) = none := rfl
    unfold argTests
    cases arg.hasBounds <;> cases arg.minimum <;> cases arg.maximum <;> simp [rejected]
  rw [argCheck, List.filterMap_cons_some here, List.filterMap_cons_none supplied, tested]

theorem filterMap_bound?_argChecks {args : List Arg}
    (named : ∀ arg ∈ args, Text.isIdentifier arg.name = true) :
    (argChecks args).filterMap bound? =
      (args.zipIdx 1).map fun (arg, index) => (arg.name, s!"$\x7bparts[{index}]\x7d") := by
  have comment : bound? (.line "# Argument validation.") = none := by decide +kernel
  unfold argChecks
  split
  · next empty => simp [List.isEmpty_iff.1 empty]
  · rw [List.filterMap_cons_none comment, List.filterMap_flatMap, List.map_eq_flatMap]
    refine List.flatMap_congr ?_
    rintro ⟨arg, index⟩ present
    exact filterMap_bound?_argCheck (named arg (List.fst_mem_of_mem_zipIdx present)) index

end Bash

/-! ## Batch -/

namespace Batch

/-- A line ends the statement, and a percent sign starts an expansion. -/
def isLive (c : Char) : Bool :=
  c = '%' || c = '\n' || c = '\r'

def expand (words : List String) : List Char → Option (List Char)
  | [] => some []
  | '%' :: '~' :: digit :: rest =>
      if digit.isDigit then do
        let word ← parameter? words (Nat.ofDigitChars 10 [digit] 0)
        return word.toList ++ (← expand words rest)
      else none
  | c :: rest => if isLive c then none else (expand words rest).map (c :: ·)

def expand? (words : List String) (word : String) : Option String :=
  (expand words word.toList).map String.ofList

/-- A variable and the word that it is set to. -/
def assignment? (line : String) : Option (String × String) := do
  let inside ← Text.between? "set \"" "\"" line
  let (name, word) ← Text.upTo? '=' inside.toList
  if Text.isIdentifier (String.ofList name) then
    return (String.ofList name, String.ofList word)
  else none

/-- The variables that are set right before a jump depends on them; a default value is not. -/
def bindings : List Statement → List (String × String)
  | [] => []
  | bound :: rest =>
      (if (rest.head?.bind Statement.target?).isSome then
        (bound.lines.head?.bind assignment?).toList else []) ++ bindings rest

theorem expand_of_not_live (words : List String) {text : List Char}
    (dead : ∀ c ∈ text, isLive c = false) : expand words text = some text := by
  induction text with
  | nil => rfl
  | cons c text ih =>
      have here := dead c List.mem_cons_self
      have percent : c ≠ '%' := by
        rintro rfl
        cases here
      rw [expand]
      · simp [here, ih fun d present => dead d (List.mem_cons_of_mem c present)]
      · simp [percent]

theorem expand_digits (words : List String) {digits : List Char}
    (all : ∀ c ∈ digits, c.isDigit = true) : expand words digits = some digits := by
  refine expand_of_not_live words fun c present => ?_
  by_contra live
  simp only [isLive, Bool.not_eq_false, Bool.or_eq_true, decide_eq_true_eq] at live
  have digit := all c present
  rcases live with (rfl | rfl) | rfl <;> cases digit

theorem expand?_reference (words : List String) (number : Nat) :
    expand? words s!"%~{number}" =
      (reference? words (toString number).toList).map String.ofList := by
  have chars : s!"%~{number}".toList = '%' :: '~' :: (toString number).toList := by
    simp [toString]
  have all : ∀ c ∈ (toString number).toList, c.isDigit = true := fun c => isDigit_of_mem_toString
  rw [expand?, chars]
  cases digits : (toString number).toList with
  | nil => exact absurd digits (toList_toString_ne_nil number)
  | cons digit rest =>
      rw [digits] at all
      have others := expand_digits words fun c present => all c (List.mem_cons_of_mem digit present)
      simp only [expand, all digit List.mem_cons_self, others, reference?]
      cases parameter? words (Nat.ofDigitChars 10 [digit] 0) with
      | none => rfl
      | some word => rfl

theorem assignment?_eq {name : String} (named : Text.isIdentifier name = true) (word : String) :
    assignment? ("set \"" ++ (name ++ "=" ++ word) ++ "\"") = some (name, word) := by
  have free : '=' ∉ name.toList := by
    intro present
    exact absurd (Text.isWordChar_of_mem named present) (by decide)
  have found := Text.upTo?_append free word.toList
  rw [assignment?, Text.between?_append]
  simp [found, named]

theorem bindings_append {front rest : List Statement}
    (straight : ∀ statement ∈ front, statement.target? = none)
    (next : rest.head?.bind Statement.target? = none) :
    bindings (front ++ rest) = bindings rest := by
  induction front with
  | nil => rfl
  | cons statement front ih =>
      have after : (front ++ rest).head?.bind Statement.target? = none := by
        cases front with
        | nil => exact next
        | cons second front =>
            exact straight second (List.mem_cons_of_mem _ List.mem_cons_self)
      rw [List.cons_append, bindings, after,
        ih fun other present => straight other (List.mem_cons_of_mem _ present)]
      rfl

theorem bindings_argCheck_append {arg : Arg} (named : Text.isIdentifier arg.name = true)
    (position : Nat) (label : String) {rest : List Statement}
    (next : rest.head?.bind Statement.target? = none) :
    bindings (argCheck arg position label ++ rest) =
      (arg.name, s!"%~{position}") :: bindings rest := by
  have bound : (Statement.assign arg.name s!"%~{position}").lines.head?.bind assignment? =
      some (arg.name, s!"%~{position}") := by
    have line : (Statement.assign arg.name s!"%~{position}").lines =
        ["set \"" ++ (arg.name ++ "=" ++ s!"%~{position}") ++ "\""] := by
      simp [Statement.lines, toString, ← String.toList_inj]
    rw [line]
    exact assignment?_eq named _
  have straight : ∀ statement ∈ argSupply arg :: .label label :: argTests arg,
      statement.target? = none := by
    have supplied : (argSupply arg).target? = none := by
      unfold argSupply
      cases arg.fallback with
      | some value => rfl
      | none => rfl
    have tested : ∀ statement ∈ argTests arg, statement.target? = none := by
      unfold argTests
      cases arg.hasBounds <;> cases arg.minimum <;> cases arg.maximum <;>
        simp [Statement.target?]
    exact List.forall_mem_cons.2 ⟨supplied, List.forall_mem_cons.2 ⟨rfl, tested⟩⟩
  have later := bindings_append straight next
  have calm : ((argSupply arg :: .label label :: argTests arg ++ rest).head?.bind
      Statement.target?) = none := straight _ List.mem_cons_self
  rw [argCheck, List.cons_append, List.cons_append, bindings, bindings, calm, later, bound]
  rfl

theorem bindings_argChecks {args : List Arg} (menu : String) (index : Nat)
    (named : ∀ arg ∈ args, Text.isIdentifier arg.name = true) :
    bindings (argChecks menu index args) =
      (args.zipIdx 2).map fun (arg, position) => (arg.name, s!"%~{position}") := by
  let check := fun (pair : Arg × Nat) => argCheck pair.1 pair.2 (hasArg menu index pair.1.name)
  have starts (pairs : List (Arg × Nat)) :
      (pairs.flatMap check).head?.bind Statement.target? = none := by
    cases pairs with
    | nil => rfl
    | cons pair pairs => rfl
  have each (pairs : List (Arg × Nat))
      (named : ∀ pair ∈ pairs, Text.isIdentifier pair.1.name = true) :
      bindings (pairs.flatMap check) =
        pairs.map fun (arg, position) => (arg.name, s!"%~{position}") := by
    induction pairs with
    | nil => rfl
    | cons pair pairs ih =>
        rw [List.flatMap_cons, List.map_cons, bindings_argCheck_append
          (named pair List.mem_cons_self) pair.2 _ (starts pairs),
          ih fun other present => named other (List.mem_cons_of_mem pair present)]
  unfold argChecks
  split
  · next empty => simp [List.isEmpty_iff.1 empty, bindings]
  · rw [← List.singleton_append, bindings_append (List.forall_mem_singleton.2 rfl) (starts _)]
    exact each _ fun pair present => named pair.1 (List.fst_mem_of_mem_zipIdx present)

end Batch

/-! ## Preambles -/

theorem getElem?_preamble {args : List Arg} {place : Nat} {arg : Arg}
    (declared : args[place]? = some arg) (line : Arg → Nat → String) (rest : List String) :
    ((args.zipIdx 1).map (fun (arg, index) => line arg index) ++ rest)[place]? =
      some (line arg (place + 1)) := by
  obtain ⟨inside, _⟩ := List.getElem?_eq_some_iff.1 declared
  rw [List.getElem?_append_left (by simpa using inside), List.getElem?_map, List.getElem?_zipIdx,
    declared, Nat.add_comm 1 place]
  rfl

theorem Bash.assignment?_preamble {args : List Arg} {place : Nat} {arg : Arg}
    (declared : args[place]? = some arg) (named : Text.isIdentifier arg.name = true)
    (text : String) :
    (fragmentLines args text)[place]?.bind assignment? = some (arg.name, s!"${place + 1}") := by
  have line : (fragmentLines args text)[place]? = some s!"{arg.name}=${place + 1}" :=
    getElem?_preamble declared (fun arg index => s!"{arg.name}=${index}") _
  have split : s!"{arg.name}=${place + 1}" = arg.name ++ "=" ++ s!"${place + 1}" := by
    simp [toString, ← String.toList_inj]
  rw [line, split]
  exact assignment?_eq named _

theorem Batch.assignment?_preamble {args : List Arg} {place : Nat} {arg : Arg}
    (declared : args[place]? = some arg) (named : Text.isIdentifier arg.name = true)
    (text : String) :
    (fragmentLines args text)[place]?.bind assignment? = some (arg.name, s!"%~{place + 1}") := by
  have line : (fragmentLines args text)[place]? = some s!"set \"{arg.name}=%~{place + 1}\"" :=
    getElem?_preamble declared (fun arg index => s!"set \"{arg.name}=%~{index}\"") _
  have split : s!"set \"{arg.name}=%~{place + 1}\"" =
      "set \"" ++ (arg.name ++ "=" ++ s!"%~{place + 1}") ++ "\"" := by
    simp [toString, ← String.toList_inj]
  rw [line, split]
  exact assignment?_eq named _

/-! ## Calls -/

/-- The routine that is called, and the variables that are passed to it. -/
def Bash.callOf? : List String → Option (String × List String)
  | [] => none
  | routine :: words => (words.mapM (Text.between? "\"$" "\"")).map (routine, ·)

def Bash.call? (statements : List Statement) : Option (String × List String) :=
  match statements.flatMap Statement.lines with
  | [line] => callOf? (Text.splitAt ' ' line)
  | _ => none

theorem Bash.call?_singleton (text : String) :
    Bash.call? [.line text] = callOf? (Text.splitAt ' ' text) := rfl

def Batch.callOf? : List String → Option (String × List String)
  | command :: target :: words =>
      if command = "call" then do
        let routine ← Text.between? ":func_" "" target
        (words.mapM (Text.between? "\"%" "%\"")).map (routine, ·)
      else none
  | _ => none

def Batch.call? (statements : List Statement) : Option (String × List String) :=
  match statementLines statements with
  | [_, line] => callOf? (Text.splitAt ' ' line)
  | _ => none

theorem Text.not_isBlank_of_word {c : Char} (word : c.isAlphanum = true ∨ c = '_') :
    isBlank c = false := by
  rcases word with alphanumeric | rfl
  · have range : (65 ≤ c.toNat ∧ c.toNat ≤ 90 ∨ 97 ≤ c.toNat ∧ c.toNat ≤ 122) ∨
        48 ≤ c.toNat ∧ c.toNat ≤ 57 := by
      simpa [Char.isAlphanum, isAlpha_eq, Char.isDigit, Char.le_def, UInt32.le_iff_toNat_le]
        using alphanumeric
    simp only [isBlank, Bool.or_eq_false_iff, Bool.and_eq_false_imp, decide_eq_true_eq,
      decide_eq_false_iff_not, beq_eq_false_iff_ne]
    omega
  · decide

theorem mem_fragmentRoutine {menu command : String} {c : Char}
    (present : c ∈ (fragmentRoutine menu command).toList) : c.isAlphanum = true ∨ c = '_' := by
  have fixed : "fragment_".toList.all (fun c => c.isAlphanum || c == '_') = true := by decide
  have parts : (fragmentRoutine menu command).toList = "fragment_".toList ++
      (Escape.toIdentifier menu).toList ++ "_".toList ++ (Escape.toIdentifier command).toList := by
    simp [fragmentRoutine, toString]
  rw [parts] at present
  simp only [List.mem_append] at present
  rcases present with ((first | menu) | between) | command
  · simpa using List.all_eq_true.1 fixed c first
  · exact Escape.mem_toIdentifier menu
  · exact Or.inr (by simpa using between)
  · exact Escape.mem_toIdentifier command

theorem unspaced_fragmentRoutine (menu command : String) :
    ' ' ∉ (fragmentRoutine menu command).toList := by
  intro space
  exact absurd (mem_fragmentRoutine space) (by decide)

theorem endsSolid_fragmentRoutine (menu command : String) :
    Text.EndsSolid (fragmentRoutine menu command) := by
  cases last : (fragmentRoutine menu command).toList.getLast? with
  | none => simp [fragmentRoutine, toString] at last
  | some c =>
      exact ⟨c, last, Text.not_isBlank_of_word (mem_fragmentRoutine (List.mem_of_getLast? last))⟩

/-- The words of a call are what stands between its spaces. -/
theorem splitAt_call {front opening closing : String} {names : List String}
    (solid : Text.EndsSolid front) (named : ∀ name ∈ names, Text.isIdentifier name = true)
    (opens : ' ' ∉ opening.toList) (closes : ' ' ∉ closing.toList) (ends : Text.EndsSolid closing) :
    Text.splitAt ' ' (Text.trimEnd (front ++ " " ++
        " ".intercalate (names.map fun name => opening ++ name ++ closing))) =
      Text.splitAt ' ' front ++ names.map fun name => opening ++ name ++ closing := by
  refine Text.splitAt_trimEnd solid (fun word present => ?_) fun word present => ?_
  · obtain ⟨name, listed, rfl⟩ := List.mem_map.1 present
    intro space
    simp only [String.toList_append, List.mem_append] at space
    rcases space with (before | inside) | after
    · exact opens before
    · exact absurd (Text.isWordChar_of_mem (named name listed) inside) (by decide)
    · exact closes after
  · obtain ⟨name, _, rfl⟩ := List.mem_map.1 present
    exact ends.append _

section Calls

variable {routine : String} {names : List String} (unspaced : ' ' ∉ routine.toList)
  (solid : Text.EndsSolid routine) (named : ∀ name ∈ names, Text.isIdentifier name = true)
include unspaced solid named

theorem Bash.call?_line :
    Bash.call? [.line (Text.trimEnd (routine ++ " " ++
        " ".intercalate (names.map fun name => "\"$" ++ name ++ "\"")))] =
      some (routine, names) := by
  have words := splitAt_call solid named (show ' ' ∉ "\"$".toList by decide)
    (show ' ' ∉ "\"".toList by decide) ⟨'"', rfl, rfl⟩
  rw [Text.splitAt_of_not_mem unspaced, List.singleton_append] at words
  rw [Bash.call?_singleton, words, callOf?, Text.mapM_between?]
  rfl

theorem Batch.call?_call :
    Batch.call? [.call routine (names.map fun name => "\"%" ++ name ++ "%\"")] =
      some (routine, names) := by
  have split : "call :func_" ++ routine = "call" ++ " " ++ (":func_" ++ routine) := by
    simp [← String.toList_inj]
  have free : ' ' ∉ (":func_" ++ routine).toList := by
    rw [String.toList_append, List.mem_append, not_or]
    exact ⟨by decide, unspaced⟩
  have front : Text.splitAt ' ' ("call :func_" ++ routine) = ["call", ":func_" ++ routine] := by
    rw [split, Text.splitAt_append, Text.splitAt_of_not_mem free]
    rfl
  have words := splitAt_call (solid.append "call :func_") named (show ' ' ∉ "\"%".toList by decide)
    (show ' ' ∉ "%\"".toList by decide) ⟨'"', rfl, rfl⟩
  rw [front] at words
  have lines : statementLines [.call routine (names.map fun name => "\"%" ++ name ++ "%\"")] =
      ["set func=" ++ routine, Text.trimEnd ("call :func_" ++ routine ++ " " ++
        " ".intercalate (names.map fun name => "\"%" ++ name ++ "%\""))] := by
    simp [statementLines, Statement.lines, call, toString]
  rw [Batch.call?, lines]
  show callOf? (Text.splitAt ' ' _) = _
  rw [words, List.cons_append, List.cons_append, List.nil_append, callOf?, if_pos rfl,
    Text.mapM_between?, Text.between?_start]
  rfl

end Calls

/-! ## Places -/

/-- An argument is bound to the value at its own place by the check that uses an array. The check
that counts the command as the first parameter binds the first eight arguments so, and the fragments
bind the first nine. Both calls pass all of them in the order of their declaration. -/
theorem argument_binds_place_iff (plan : MenuPlan) (levels : List Int) (index : Nat)
    (command : Command) (script text : String)
    (named : ∀ arg ∈ command.args, Text.isIdentifier arg.name = true) :
    (∀ place arg, command.args[place]? = some arg →
      Binds ((Bash.argChecks command.args).filterMap Bash.bound?)[place]?
        (fun passed => Bash.expand? { parts := passed.token :: passed.values }) arg.name place ∧
      (Binds (Batch.bindings (Batch.argChecks plan.name index command.args))[place]?
        (fun passed => Batch.expand? (passed.token :: passed.values)) arg.name place ↔
          place + 2 ≤ 9) ∧
      (Binds ((Bash.fragmentLines command.args text)[place]?.bind Bash.assignment?)
        (fun passed => Bash.expand? { parameters := passed.values }) arg.name place ↔
          place + 1 ≤ 9) ∧
      (Binds ((Batch.fragmentLines command.args text)[place]?.bind Batch.assignment?)
        (fun passed => Batch.expand? passed.values) arg.name place ↔ place + 1 ≤ 9)) ∧
    Bash.call? (Bash.bodyStatements plan ⟨command, .fragment script⟩) =
      some (fragmentRoutine plan.name command.name, command.args.map Arg.name) ∧
    ∃ body, Batch.bodyStatements plan levels ⟨command, .fragment script⟩ = .ok body ∧
      Batch.call? body =
        some (fragmentRoutine plan.name command.name, command.args.map Arg.name) := by
  have routine := unspaced_fragmentRoutine plan.name command.name
  have solid := endsSolid_fragmentRoutine plan.name command.name
  have names : ∀ name ∈ command.args.map Arg.name, Text.isIdentifier name = true :=
    List.forall_mem_map.2 named
  have identified {place : Nat} {arg : Arg} (declared : command.args[place]? = some arg) :=
    named arg (List.mem_of_getElem? declared)
  refine ⟨fun place arg declared => ⟨?_, ?_, ?_, ?_⟩, ?_, _, rfl, ?_⟩
  · refine ⟨s!"$\x7bparts[{1 + place}]\x7d", ?_, fun passed => ?_⟩
    · rw [Bash.filterMap_bound?_argChecks named, List.getElem?_map, List.getElem?_zipIdx, declared]
      rfl
    · show Bash.expand? { parts := passed.token :: passed.values } _ = _
      rw [Bash.expand?_part, Nat.add_comm, List.getD_cons_succ]
  · have written : (Batch.bindings (Batch.argChecks plan.name index command.args))[place]? =
        some (arg.name, s!"%~{place + 2}") := by
      rw [Batch.bindings_argChecks plan.name index named, List.getElem?_map, List.getElem?_zipIdx,
        declared, Nat.add_comm]
      rfl
    exact binds_reference_iff written
      (fun passed => Batch.expand?_reference (passed.token :: passed.values) (place + 2))
      fun passed => rfl
  · have written := Bash.assignment?_preamble declared (identified declared) text
    exact binds_reference_iff written
      (fun passed => Bash.expand?_reference { parameters := passed.values } (place + 1))
      fun passed => rfl
  · have written := Batch.assignment?_preamble declared (identified declared) text
    exact binds_reference_iff written
      (fun passed => Batch.expand?_reference passed.values (place + 1)) fun passed => rfl
  · have call := Bash.call?_line routine solid names
    rwa [List.map_map] at call
  · have call := Batch.call?_call routine solid names
    rwa [List.map_map] at call

/-- The tenth argument is the first one whose place has two digits. -/
def wideCommand : Command where
  name := "go"
  description := "Go."
  args := ["a", "b", "see", "d", "e", "f", "g", "h", "i", "j"].map fun name => { name }
  script := some (.str "go")

theorem wideCommand_tenth_not_bound :
    (∀ arg ∈ wideCommand.args, Text.isIdentifier arg.name = true) ∧
    wideCommand.args[9]?.map Arg.name = some "j" ∧
    Binds ((Bash.argChecks wideCommand.args).filterMap Bash.bound?)[9]?
      (fun passed => Bash.expand? { parts := passed.token :: passed.values }) "j" 9 ∧
    ¬ Binds (Batch.bindings (Batch.argChecks "main" 0 wideCommand.args))[9]?
      (fun passed => Batch.expand? (passed.token :: passed.values)) "j" 9 ∧
    ¬ Binds ((Bash.fragmentLines wideCommand.args "ls")[9]?.bind Bash.assignment?)
      (fun passed => Bash.expand? { parameters := passed.values }) "j" 9 ∧
    ¬ Binds ((Batch.fragmentLines wideCommand.args "dir")[9]?.bind Batch.assignment?)
      (fun passed => Batch.expand? passed.values) "j" 9 ∧
    Bash.expand? { parameters := ["one", "two"] } "$10" = some "one0" ∧
    Batch.expand? ["one", "two"] "%~10" = some "one0" := by
  have named : ∀ arg ∈ wideCommand.args, Text.isIdentifier arg.name = true := by decide
  have meets (text : String) := (argument_binds_place_iff ⟨{ name := "main" }, [], []⟩ [] 0
    wideCommand "go" text named).1 9 _ rfl
  obtain ⟨array, parameters, _⟩ := meets ""
  exact ⟨named, rfl, array, mt parameters.1 (by decide), mt (meets "ls").2.2.1.1 (by decide),
    mt (meets "dir").2.2.2.1 (by decide), by decide +kernel, by decide +kernel⟩

end ShellMenu
