import ShellMenu.Bash.Routines
import ShellMenu.Proofs.Text.Escaping
import ShellMenu.Proofs.Text.Reading

/-
  How bash reads the case statement that picks a command, line by line: the patterns of each arm are
  taken from the line that opens it, their quotes are removed, and the first arm with a pattern that
  is the token runs up to the line that ends it.
-/

namespace ShellMenu.Bash

/-- What has to be escaped inside double quotes. -/
def special : List Char := ['\\', '"', '$', '\x60']

theorem toList_doubleQuote (text : String) :
    (doubleQuote text).toList =
      '"' :: text.toList.flatMap (Escape.escapeChar '\\' special) ++ ['"'] := by
  have distinct : special.Nodup := by decide
  have escaped := Escape.toList_sequential distinct (show '\\' ∉ special.tail by decide) text
  have inside : Escape.sequential "\\" ["\\", "\"", "$", "\x60"] text =
      Escape.sequential (String.singleton '\\') (special.map String.singleton) text := rfl
  rw [doubleQuote, inside, String.toList_append, String.toList_append, escaped]
  rfl

theorem mem_doubleQuote {text : String} {c : Char} (present : c ∈ (doubleQuote text).toList) :
    c = '"' ∨ c = '\\' ∨ c ∈ text.toList := by
  rw [toList_doubleQuote, List.cons_append, List.mem_cons, List.mem_append,
    List.mem_singleton] at present
  rcases present with quote | inside | quote
  · exact Or.inl quote
  · exact Or.inr (Escape.mem_of_mem_flatMap_escapeChar inside)
  · exact Or.inl quote

/-! ## Reading patterns -/

/-- Alternatives in double quotes, from inside the first one; `word` is what was read of it. What
would be live between the quotes is not read. -/
def readWords (word : List Char) : List Char → Option (List String)
  | ['"'] => some [String.ofList word]
  | '"' :: ' ' :: '|' :: ' ' :: '"' :: rest => (readWords [] rest).map (String.ofList word :: ·)
  | '\\' :: c :: rest => if c ∈ special then readWords (word ++ [c]) rest else none
  | c :: rest => if c ∈ special then none else readWords (word ++ [c]) rest
  | [] => none

def ArmPattern.read (text : String) : Option ArmPattern :=
  match text.toList with
  | ['*'] => some .anything
  | '"' :: rest => (readWords [] rest).map .words
  | _ => none

theorem readWords_plain {c : Char} (plain : c ∉ special) (word rest : List Char) :
    readWords word (c :: rest) = readWords (word ++ [c]) rest := by
  have noQuote : c ≠ '"' := fun same => plain (same ▸ by decide)
  have noEscape : c ≠ '\\' := fun same => plain (same ▸ by decide)
  rw [readWords]
  · simp [plain]
  · simp [noQuote]
  · simp [noQuote]
  · simp [noEscape]

theorem readWords_escaped (word chars rest : List Char) :
    readWords word (chars.flatMap (Escape.escapeChar '\\' special) ++ rest) =
      readWords (word ++ chars) rest := by
  induction chars generalizing word with
  | nil => simp
  | cons c chars ih =>
      by_cases escaped : c ∈ special
      · have first : Escape.escapeChar '\\' special c = ['\\', c] := by
          simp [Escape.escapeChar, escaped]
        rw [List.flatMap_cons, first]
        simp [readWords, escaped, ih]
      · have first : Escape.escapeChar '\\' special c = [c] := by
          simp [Escape.escapeChar, escaped]
        rw [List.flatMap_cons, first, List.cons_append, List.cons_append, readWords_plain escaped]
        simp [ih]

/-- The text of some alternatives opens the first quote and then reads as what they are. -/
theorem exists_readWords_source (name : String) (others : List String) :
    ∃ rest, (ArmPattern.words (name :: others)).source.toList = '"' :: rest ∧
      readWords [] rest = some (name :: others) := by
  induction others generalizing name with
  | nil =>
      have single : (ArmPattern.words [name]).source = doubleQuote name := by
        simp [ArmPattern.source]
      refine ⟨_, by rw [single, toList_doubleQuote, List.cons_append], ?_⟩
      rw [readWords_escaped, readWords]
      simp
  | cons other others ih =>
      obtain ⟨rest, same, read⟩ := ih other
      have several : (ArmPattern.words (name :: other :: others)).source =
          doubleQuote name ++ " | " ++ (ArmPattern.words (other :: others)).source := by
        simp [ArmPattern.source, String.intercalate_cons_cons]
      refine ⟨name.toList.flatMap (Escape.escapeChar '\\' special) ++
        '"' :: ' ' :: '|' :: ' ' :: '"' :: rest, ?_, ?_⟩
      · rw [several, String.toList_append, String.toList_append, toList_doubleQuote, same]
        simp
      · rw [readWords_escaped, readWords, read]
        simp

/-- A pattern is read back from its text. -/
theorem ArmPattern.read_source {pattern : ArmPattern} (named : pattern ≠ .words []) :
    ArmPattern.read pattern.source = some pattern := by
  cases pattern with
  | anything => rfl
  | words names =>
      cases names with
      | nil => exact absurd rfl named
      | cons name others =>
          obtain ⟨rest, same, read⟩ := exists_readWords_source name others
          rw [ArmPattern.read, same]
          simp [read]

/-! ## Choosing an arm -/

def ArmPattern.takes (token : String) : ArmPattern → Bool
  | .anything => true
  | .words names => names.contains token

def isRemark (row : String) : Bool :=
  (row.toList.dropWhile (· = ' ')).head? = some '#'

/-- The pattern of the arm that a line opens. -/
def pattern? (row : String) : Option ArmPattern :=
  (Text.between? "    " ")" row).bind ArmPattern.read

/-- There is nothing on the line but the two semicolons. -/
def endsArm (row : String) : Bool :=
  row.toList.filter (· ≠ ' ') = [';', ';']

/-- The lines that run, and those from the end of their arm on. -/
structure Taken where
  body : List String
  rest : List String
deriving DecidableEq, Repr

/-- The first arm that takes the token. One that does not is skipped up to the line that ends it. -/
def taken? (token : String) : (skips : Bool) → List String → Option Taken
  | _, [] => none
  | true, row :: rest => taken? token (!endsArm row) rest
  | false, row :: rest =>
      if isRemark row then taken? token false rest
      else
        match pattern? row with
        -- Between two arms there may be nothing but remarks.
        | none => none
        | some pattern =>
            if pattern.takes token then
              some ⟨rest.takeWhile (!endsArm ·), rest.dropWhile (!endsArm ·)⟩
            else taken? token true rest

/-- A process routine cuts what was typed into words, and a case statement looks at the first. -/
def dispatch? (token text : String) : Option Taken :=
  match Text.splitAt '\n' text with
  | cuts :: looks :: rows =>
      if cuts = "IFS=' ' read -ra parts <<< \"$1\"" ∧ looks = "case \"$\x7bparts[0]\x7d\" in" then
        taken? token false rows
      else none
  | _ => none

/-! ## The lines of an arm -/

namespace Arm

def bodyRows (arm : Arm) : List String :=
  (arm.body.flatMap Statement.lines).flatMap fun line => Text.splitAt '\n' (bodyIndent ++ line)

def rows (arm : Arm) : List String :=
  Text.splitAt '\n' arm.source

/-- The text of the arm tells where each of its parts ends. -/
structure IsReadable (arm : Arm) : Prop where
  described : '\n' ∉ arm.description.toList
  named : arm.pattern ≠ .words []
  pattern : '\n' ∉ arm.pattern.source.toList
  body : ∀ row ∈ arm.bodyRows, endsArm row = false

variable {arm : Arm} (readable : arm.IsReadable)

include readable

theorem IsReadable.rows_eq :
    arm.rows = ("    # " ++ arm.description) :: ("    " ++ arm.pattern.source ++ ")")
      :: (arm.bodyRows ++ [bodyIndent ++ ";;"]) := by
  have remark : Text.splitAt '\n' ("    # " ++ arm.description) = ["    # " ++ arm.description] :=
    Text.splitAt_of_not_mem (by simp [readable.described])
  have opening : Text.splitAt '\n' ("    " ++ arm.pattern.source ++ ")") =
      ["    " ++ arm.pattern.source ++ ")"] :=
    Text.splitAt_of_not_mem (by simp [readable.pattern])
  have ending : Text.splitAt '\n' (bodyIndent ++ ";;") = [bodyIndent ++ ";;"] := by decide +kernel
  rw [rows, source, Text.splitAt_joinLines (by simp)]
  simp only [List.flatMap_append, List.flatMap_cons, List.flatMap_nil, toString, remark, opening,
    ending, List.flatMap_map, bodyRows]
  simp

theorem IsReadable.pattern?_eq :
    pattern? ("    " ++ arm.pattern.source ++ ")") = some arm.pattern := by
  rw [pattern?, Text.between?_append]
  exact ArmPattern.read_source readable.named

theorem IsReadable.not_isRemark : isRemark ("    " ++ arm.pattern.source ++ ")") = false := by
  have first : ∃ c rest, arm.pattern.source.toList = c :: rest ∧ c ≠ ' ' ∧ c ≠ '#' := by
    cases named : arm.pattern with
    | anything => exact ⟨'*', [], rfl, by decide, by decide⟩
    | words names =>
        cases names with
        | nil => exact absurd named readable.named
        | cons name others =>
            obtain ⟨rest, same, _⟩ := exists_readWords_source name others
            exact ⟨'"', rest, same, by decide, by decide⟩
  obtain ⟨c, rest, chars, solid, plain⟩ := first
  simp [isRemark, chars, solid, plain]

end Arm

theorem taken?_skip (token : String) {body : List String}
    (inside : ∀ row ∈ body, endsArm row = false) {last : String} (ends : endsArm last = true)
    (rest : List String) :
    taken? token true (body ++ last :: rest) = taken? token false rest := by
  induction body with
  | nil => simp [taken?, ends]
  | cons row body ih =>
      obtain ⟨here, later⟩ := List.forall_mem_cons.1 inside
      rw [List.cons_append, taken?, here]
      exact ih later

/-- The first arm whose pattern takes the token runs. -/
theorem taken?_arms {token : String} {arms : List Arm} (readable : ∀ arm ∈ arms, arm.IsReadable)
    {place : Nat} {arm : Arm} (first : arms.findIdx? (·.pattern.takes token) = some place)
    (listed : arms[place]? = some arm) (ending : List String) :
    taken? token false (arms.flatMap Arm.rows ++ ending) =
      some ⟨arm.bodyRows, (Arm.bodyIndent ++ ";;")
        :: ((arms.drop (place + 1)).flatMap Arm.rows ++ ending)⟩ := by
  induction arms generalizing place with
  | nil => cases first
  | cons next arms ih =>
      obtain ⟨here, later⟩ := List.forall_mem_cons.1 readable
      have remark : isRemark ("    # " ++ next.description) = true := by simp [isRemark]
      have ends : endsArm (Arm.bodyIndent ++ ";;") = true := by decide
      rw [List.flatMap_cons, List.append_assoc, here.rows_eq]
      simp only [List.cons_append, List.append_assoc, List.nil_append, taken?, remark, if_true,
        here.not_isRemark, Bool.false_eq_true, if_false, here.pattern?_eq]
      rw [List.findIdx?_cons] at first
      cases takes : next.pattern.takes token with
      | true =>
          rw [takes] at first
          cases first
          cases listed
          have keeps : ∀ row ∈ arm.bodyRows, (!endsArm row) = true := fun row inside => by
            simp [here.body row inside]
          rw [if_pos rfl, List.takeWhile_append_of_pos keeps, List.dropWhile_append_of_pos keeps,
            List.takeWhile_cons_of_neg (by simp [ends]),
            List.dropWhile_cons_of_neg (by simp [ends])]
          simp
      | false =>
          rw [takes] at first
          obtain ⟨before, inside, rfl⟩ := Option.map_eq_some_iff.1 first
          rw [if_neg (by simp), taken?_skip token here.body ends]
          exact ih later inside listed

theorem rows_processRoutine (plan : MenuPlan) :
    Text.splitAt '\n' (processRoutine plan).code =
      "IFS=' ' read -ra parts <<< \"$1\"" :: "case \"$\x7bparts[0]\x7d\" in"
        :: ((arms plan).flatMap Arm.rows ++ ["esac"]) := by
  have opening : ∀ line ∈ ["IFS=' ' read -ra parts <<< \"$1\"", "case \"$\x7bparts[0]\x7d\" in",
      "esac"], Text.splitAt '\n' line = [line] := by
    decide +kernel
  simp only [List.forall_mem_cons] at opening
  rw [processRoutine, Routine.ofLines, Text.splitAt_joinLines (by simp)]
  simp only [List.flatMap_append, List.flatMap_cons, List.flatMap_nil, opening.1, opening.2.1,
    opening.2.2.1, List.flatMap_map]
  rfl

/-- Where the arms are readable, the first one that takes the token is the one that runs. -/
theorem dispatch?_processRoutine {plan : MenuPlan} (readable : ∀ arm ∈ arms plan, arm.IsReadable)
    {token : String} {place : Nat} {arm : Arm}
    (first : (arms plan).findIdx? (·.pattern.takes token) = some place)
    (listed : (arms plan)[place]? = some arm) :
    dispatch? token (processRoutine plan).code =
      some ⟨arm.bodyRows, (Arm.bodyIndent ++ ";;")
        :: (((arms plan).drop (place + 1)).flatMap Arm.rows ++ ["esac"])⟩ := by
  rw [dispatch?, rows_processRoutine]
  simp only [and_self, if_true]
  exact taken?_arms readable first listed ["esac"]

theorem armPattern_ne_words_nil (command : Command) : armPattern command ≠ .words [] := by
  unfold armPattern
  split
  · simp
  · simp [Command.names]

/-- The arms stand in the order of the table, and an arm takes the words of its command. -/
theorem findIdx?_arms (plan : MenuPlan) (token : String) :
    (arms plan).findIdx? (·.pattern.takes token) =
      plan.commands.findIdx? fun planned =>
        planned.command.isCatchAll || planned.command.names.contains token := by
  rw [arms, List.findIdx?_map]
  refine congrArg (plan.commands.findIdx? ·) (funext fun planned => ?_)
  show (armPattern planned.command).takes token = _
  cases everything : planned.command.isCatchAll with
  | true => simp [armPattern, everything, ArmPattern.takes]
  | false => simp [armPattern, everything, ArmPattern.takes]

end ShellMenu.Bash
