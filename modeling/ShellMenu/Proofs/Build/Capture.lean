import ShellMenu.Proofs.Plan.Gates
import ShellMenu.Proofs.Schema.WholeNames
import ShellMenu.Proofs.Spec.Demo
import ShellMenu.Proofs.Text.Marks

/-
  Arguments are variables of the scripts, and keep their values. The routines that authenticate have
  variables of their own, and the reserved names are there to keep the two apart. They do in bash.
  The batch routine also asks where temporary files go, and the name of that variable is not
  reserved.
-/

namespace ShellMenu

/-! ## Names without regard to case -/

namespace Text

/-- Equal as names of the batch interpreter, which ignores the case of letters. -/
def SameName (left right : String) : Prop :=
  left.toList.map Char.toLower = right.toList.map Char.toLower

instance (left right : String) : Decidable (SameName left right) :=
  inferInstanceAs (Decidable (_ = _))

theorem isWordChar_iff {c : Char} :
    isWordChar c = true ↔ 65 ≤ c.toNat ∧ c.toNat ≤ 90 ∨ 97 ≤ c.toNat ∧ c.toNat ≤ 122 ∨
      48 ≤ c.toNat ∧ c.toNat ≤ 57 ∨ c.toNat = 95 := by
  have underscore : c = '_' ↔ c.toNat = 95 :=
    ⟨fun same => same ▸ rfl, fun same => Char.toNat_inj.1 same⟩
  simp only [isWordChar, Char.isAlphanum, Text.isAlpha_eq, Char.isDigit, Char.le_def,
    Bool.or_eq_true, Bool.and_eq_true, decide_eq_true_eq, UInt32.le_iff_toNat_le, ge_iff_le,
    underscore, or_assoc]
  exact Iff.rfl

theorem toNat_toLower (c : Char) :
    c.toLower.toNat = if 65 ≤ c.toNat ∧ c.toNat ≤ 90 then c.toNat + 32 else c.toNat := by
  have upper : c.val ≥ 'A'.val ∧ c.val ≤ 'Z'.val ↔ 65 ≤ c.toNat ∧ c.toNat ≤ 90 := by
    simp only [ge_iff_le, UInt32.le_iff_toNat_le]
    exact Iff.rfl
  unfold Char.toLower
  split
  · next capital =>
      rw [if_pos (upper.1 capital)]
      show (c.val + 32).toNat = c.val.toNat + 32
      have range : c.val.toNat ≤ 90 := (upper.1 capital).2
      rw [UInt32.toNat_add]
      exact Nat.mod_eq_of_lt (Nat.lt_of_le_of_lt (Nat.add_le_add_right range 32) (by decide))
  · next other => rw [if_neg (mt upper.2 other)]

theorem isWordChar_toLower (c : Char) : isWordChar c.toLower = isWordChar c := by
  rw [Bool.eq_iff_iff, isWordChar_iff, isWordChar_iff, toNat_toLower]
  split <;> omega

theorem eq_newline_of_toLower {c : Char} (same : c.toLower = '\n') : c = '\n' := by
  have code := congrArg Char.toNat same
  rw [toNat_toLower] at code
  have newline : '\n'.toNat = 10 := rfl
  refine Char.toNat_inj.1 ?_
  split at code <;> omega

theorem lower_of_word {text : String} (word : ∀ c ∈ text.toList, isWordChar c = true) :
    lower text = String.ofList (text.toList.map Char.toLower) := by
  refine congrArg String.ofList (lowerFrom_of_ascii (fun c present => ?_) [])
  have range := isWordChar_iff.1 (word c present)
  omega

end Text

open Text

/-- A name as a word, with or without a line feed after it. -/
structure Spelling (name : String) where
  word : List Char
  ending : List Char
  chars : name.toList = word ++ ending
  something : word ≠ []
  inside : ∀ c ∈ word, isWordChar c = true
  newline : ending = [] ∨ ending = ['\n']

theorem exists_spelling {name : String} (named : Pattern.identifier.accepts name = true) :
    Nonempty (Spelling name) := by
  have whole := (identifier_whole named).chomped
  have inside : ∀ c ∈ (chomp name).toList, isWordChar c = true := by
    intro c present
    simpa [isWordChar] using isWordChar_of_mem whole present
  have something : (chomp name).toList ≠ [] := by
    intro none
    simp [isIdentifier, none] at whole
  rcases eq_chomp_or name with same | same
  · exact ⟨⟨_, [], by rw [List.append_nil, ← same], something, inside, Or.inl rfl⟩⟩
  · refine ⟨⟨_, ['\n'], ?_, something, inside, Or.inr rfl⟩⟩
    conv_lhs => rw [same]
    simp

/-- Another way to write a name in capital and small letters has the same form. -/
theorem Spelling.exists_of_sameName {name other : String} (spelling : Spelling name)
    (same : SameName other name) : ∃ found : Spelling other, found.ending = spelling.ending := by
  rw [SameName, spelling.chars, List.map_append, List.map_eq_append_iff] at same
  obtain ⟨word, ending, chars, wordSame, endingSame⟩ := same
  have kept : ending = spelling.ending := by
    rcases spelling.newline with none | feed
    · rw [none] at endingSame ⊢
      simpa using endingSame
    · rw [feed] at endingSame ⊢
      obtain ⟨c, rest, rfl, lowered, nothing⟩ := List.map_eq_cons_iff.1 endingSame
      rw [eq_newline_of_toLower (lowered.trans (by decide)), List.map_eq_nil_iff.1 nothing]
  subst kept
  refine ⟨⟨word, spelling.ending, chars, ?_, fun c present => ?_, spelling.newline⟩, rfl⟩
  · rintro rfl
    exact spelling.something (List.map_eq_nil_iff.1 wordSame.symm)
  · have lowered : c.toLower ∈ spelling.word.map Char.toLower :=
      wordSame ▸ List.mem_map_of_mem present
    obtain ⟨d, inside, equal⟩ := List.mem_map.1 lowered
    rw [← isWordChar_toLower, ← equal, isWordChar_toLower]
    exact spelling.inside d inside

theorem Spelling.mark_mem {name : String} (spelling : Spelling name) {signs : List Char}
    {sign : Char} (listed : sign ∈ signs) (before after : List Char) {text : List Char}
    (whole : text = before ++ sign :: name.toList ++ after)
    (boundary : ∀ c, after.head? = some c → isWordChar c = false) :
    ⟨sign, spelling.word, (spelling.ending ++ after).head?⟩ ∈ marks signs text := by
  refine mem_marks_iff.2 ⟨listed, spelling.something, spelling.inside, fun c next => ?_, before,
    spelling.ending ++ after, ?_, rfl⟩
  · rcases spelling.newline with none | feed
    · rw [none] at next
      exact boundary c next
    · rw [feed] at next
      cases next
      decide
  · rw [whole, spelling.chars]
    simp

/-! ## References to variables -/

namespace Bash

/-- A dollar sign goes before the name, which may stand in braces. -/
def variableSigns : List Char := ['$', '\x7b']

/-- The text has the name after a dollar sign, in braces or up to the end of the word. -/
def Refers (text name : String) : Prop :=
  '$' :: '\x7b' :: name.toList ++ ['\x7d'] <:+: text.toList ∨
    ∃ before after, text.toList = before ++ '$' :: name.toList ++ after ∧
      ∀ c, after.head? = some c → isWordChar c = false

def isReference (mark : Mark) : Bool :=
  mark.sign = '$' || mark.stop = some '\x7d'

theorem exists_mark_of_refers {text name : String} (spelling : Spelling name)
    (refers : Refers text name) :
    ∃ mark ∈ marks variableSigns text.toList, mark.word = spelling.word ∧
      (spelling.ending = [] ∧ isReference mark = true ∨ mark.stop = some '\n') := by
  rcases refers with ⟨before, after, whole⟩ | ⟨before, after, whole, boundary⟩
  · have inside : text.toList = (before ++ ['$']) ++ '\x7b' :: name.toList ++ '\x7d' :: after := by
      simp [← whole]
    have found := spelling.mark_mem (show '\x7b' ∈ variableSigns by decide) _ _ inside
      (by simp; decide)
    refine ⟨_, found, rfl, spelling.newline.imp (fun none => ⟨none, ?_⟩) fun feed => ?_⟩
    · simp [isReference, none]
    · simp [feed]
  · have found := spelling.mark_mem (show '$' ∈ variableSigns by decide) _ _ whole boundary
    refine ⟨_, found, rfl, spelling.newline.imp (fun none => ⟨none, rfl⟩) fun feed => ?_⟩
    simp [feed]

end Bash

namespace Batch

def variableSigns : List Char := ['%', '!']

/-- The text has the name between two signs. A colon after the name may start a substitution. -/
def Refers (text name : String) : Prop :=
  ∃ sign ∈ variableSigns, ∃ ending : List Char,
    (ending = [sign] ∨ ∃ old fresh, ending = ':' :: old ++ '=' :: fresh ++ [sign]) ∧
      sign :: name.toList ++ ending <:+: text.toList

def isReference (mark : Mark) : Bool :=
  mark.stop = some mark.sign || mark.stop = some ':'

theorem exists_mark_of_refers {text name : String} (spelling : Spelling name)
    (refers : Refers text name) :
    ∃ mark ∈ marks variableSigns text.toList, mark.word = spelling.word ∧
      (spelling.ending = [] ∧ isReference mark = true ∨ mark.stop = some '\n') := by
  obtain ⟨sign, listed, ending, closed, before, rest, whole⟩ := refers
  obtain ⟨first, more, rfl, closes⟩ : ∃ first more, ending = first :: more ∧
      (first = sign ∨ first = ':') := by
    rcases closed with rfl | ⟨old, fresh, rfl⟩
    · exact ⟨sign, [], rfl, Or.inl rfl⟩
    · exact ⟨':', _, rfl, Or.inr rfl⟩
  have stops : isWordChar first = false := by
    rcases closes with rfl | rfl
    · rcases List.mem_pair.1 listed with rfl | rfl
      · decide
      · decide
    · decide
  have inside : text.toList = before ++ sign :: name.toList ++ (first :: more ++ rest) := by
    simp [← whole]
  have found := spelling.mark_mem listed _ _ inside (by simpa using stops)
  refine ⟨_, found, rfl, spelling.newline.imp (fun none => ⟨none, ?_⟩) fun feed => ?_⟩
  · simpa [isReference, none] using closes
  · simp [feed]

theorem refers_of_mark {text : String} {mark : Mark}
    (present : mark ∈ marks variableSigns text.toList) (closed : mark.stop = some mark.sign) :
    Refers text (String.ofList mark.word) := by
  obtain ⟨listed, _, _, _, before, after, whole, next⟩ := mem_marks_iff.1 present
  obtain ⟨rest, rfl⟩ := List.head?_eq_some_iff.1 (next.trans closed)
  exact ⟨mark.sign, listed, [mark.sign], Or.inl rfl, before, rest, by simp [whole]⟩

end Batch

/-! ## The routines that authenticate -/

namespace Bash

/-- The words after a sign in a routine that authenticates. -/
def authMarks : List Mark := [
  ⟨'$', "INPUT_DEVICE".toList, some '"'⟩, ⟨'\x7b', "RESET".toList, some '\x7d'⟩,
  ⟨'$', "key".toList, some '"'⟩, ⟨'\x7b', "print".toList, some ' '⟩,
  ⟨'$', "1".toList, some '\x7d'⟩, ⟨'$', "hashed_key".toList, some '"'⟩,
  ⟨'\x7b', "GREEN".toList, some '\x7d'⟩, ⟨'\x7b', "RESET".toList, some '\x7d'⟩]

theorem unmarked_doubleQuote {text : String} (free : Unmarked variableSigns text) :
    Unmarked variableSigns (doubleQuote text) := by
  intro c present
  rcases mem_doubleQuote present with rfl | rfl | inside
  · decide
  · decide
  · exact free c inside

theorem marks_authLines {level digest : String} (levelFree : Unmarked variableSigns level)
    (digestFree : Unmarked variableSigns digest) :
    (authLines level digest).flatMap (lineMarks variableSigns) = authMarks := by
  have compared : lineMarks variableSigns ("if " ++ ("[ \"$hashed_key\" != \"" ++ digest ++ "\" ]")
      ++ ";") = [⟨'$', "hashed_key".toList, some '"'⟩] := by
    rw [String.append_assoc, String.append_assoc, String.append_assoc,
      lineMarks_unmarked_append (by decide), lineMarks_append (by decide +kernel),
      lineMarks_of_unmarked (digestFree.append (by decide))]
    decide +kernel
  have told : lineMarks variableSigns (success s!"Authenticated to level {level} access.") =
      [⟨'\x7b', "GREEN".toList, some '\x7d'⟩, ⟨'\x7b', "RESET".toList, some '\x7d'⟩] := by
    have message : Unmarked variableSigns ("Authenticated to level " ++ level ++ " access.") :=
      ((show Unmarked variableSigns "Authenticated to level " by decide).append levelFree).append
        (by decide)
    simp only [success, toString]
    rw [lineMarks_append (by decide +kernel), lineMarks_of_unmarked (unmarked_doubleQuote message)]
    decide +kernel
  have stored : lineMarks variableSigns ("AUTH_LEVEL=" ++ level) = [] :=
    lineMarks_of_unmarked ((show Unmarked variableSigns "AUTH_LEVEL=" by decide).append levelFree)
  obtain ⟨front, lines, before⟩ : ∃ front, authLines level digest = front ++
      (("if " ++ ("[ \"$hashed_key\" != \"" ++ digest ++ "\" ]") ++ ";") ::
        (["then"] ++ indent [error "Invalid key.", "return 1"] ++ ["fi"]) ++
      ["AUTH_LEVEL=" ++ level, success s!"Authenticated to level {level} access.", "return 0"]) ∧
      front.flatMap (lineMarks variableSigns) = authMarks.take 5 :=
    ⟨_, List.append_assoc _ _ _, by decide +kernel⟩
  have refused : (["then"] ++ indent [error "Invalid key.", "return 1"] ++ ["fi"]).flatMap
      (lineMarks variableSigns) = [] := by
    decide +kernel
  have left : lineMarks variableSigns "return 0" = [] := by
    decide +kernel
  rw [lines, List.flatMap_append, List.flatMap_append, before]
  simp only [List.flatMap_cons, List.flatMap_nil, compared, refused, stored, told, left]
  rfl

theorem marks_authRoutine {level digest : String} (levelFree : Unmarked variableSigns level)
    (digestFree : Unmarked variableSigns digest) :
    marks variableSigns (Routine.ofLines (authName level) s!"Authenticate to level {level}."
      (authLines level digest)).source.toList = authMarks := by
  have stops : isBreak variableSigns '\n' = true := by decide
  have lines (routine : Routine) : routine.source = terminated ["", "# " ++ routine.description,
      routine.name ++ " ()", "\x7b", trimEnd routine.code, "\x7d"] := by
    refine String.toList_inj.1 ?_
    simp [Routine.source, terminated, joinLines, toString]
  have described : Unmarked variableSigns ("# " ++ ("Authenticate to level " ++ level ++ ".")) :=
    (show Unmarked variableSigns "# " by decide).append
      (((show Unmarked variableSigns "Authenticate to level " by decide).append levelFree).append
        (by decide))
  have named : Unmarked variableSigns ("auth_" ++ level ++ " ()") :=
    ((show Unmarked variableSigns "auth_" by decide).append levelFree).append (by decide)
  have last : (authLines level digest).getLast? = some "return 0" := by
    rw [authLines, List.getLast?_append]
    rfl
  have coded := lineMarks_trimEnd stops last ⟨'0', by decide, by decide⟩
  have opened : lineMarks variableSigns "\x7b" = [] := by decide
  have closed : lineMarks variableSigns "\x7d" = [] := by decide
  have blank : lineMarks variableSigns "" = [] := by decide
  rw [lines, marks_terminated stops]
  simp only [Routine.ofLines, authName, toString, List.flatMap_cons, List.flatMap_nil, blank,
    lineMarks_of_unmarked described, lineMarks_of_unmarked named, opened, coded, closed,
    marks_authLines levelFree digestFree]
  rfl

end Bash

namespace Batch

def authMarks : List Mark := [
  ⟨'%', "p".toList, some ' '⟩, ⟨'%', "p".toList, some '"'⟩,
  ⟨'!', "key".toList, some '!'⟩, ⟨'%', "TEMP".toList, some '%'⟩, ⟨'%', "h".toList, some ' '⟩,
  ⟨'%', "TEMP".toList, some '%'⟩, ⟨'%', "h".toList, some '"'⟩, ⟨'%', "TEMP".toList, some '%'⟩,
  ⟨'!', "hashed_key".toList, some ':'⟩, ⟨'!', "hashed_key".toList, some '!'⟩,
  ⟨'!', "GREEN".toList, some '!'⟩, ⟨'!', "Authenticated".toList, some ' '⟩,
  ⟨'!', "RESET".toList, some '!'⟩]

theorem marks_authLines {level digest : String} (levelFree : Unmarked variableSigns level)
    (digestFree : Unmarked variableSigns digest) :
    (authLines level digest).flatMap (lineMarks variableSigns) = authMarks := by
  have compared : lineMarks variableSigns ("if /i NOT \"!hashed_key!\" == \"" ++ digest ++ "\" "
      ++ authLines.refusal) = [⟨'!', "hashed_key".toList, some '!'⟩] := by
    rw [String.append_assoc, String.append_assoc, lineMarks_append (by decide +kernel),
      lineMarks_of_unmarked (digestFree.append (by decide +kernel))]
    decide +kernel
  have stored : lineMarks variableSigns ("set \"AUTH_LEVEL=" ++ level ++ "\"") = [] :=
    lineMarks_of_unmarked
      (((show Unmarked variableSigns "set \"AUTH_LEVEL=" by decide).append levelFree).append
        (by decide))
  have told : lineMarks variableSigns ("echo !GREEN!Authenticated to level " ++ level
      ++ " access.!RESET!") = [⟨'!', "GREEN".toList, some '!'⟩,
        ⟨'!', "Authenticated".toList, some ' '⟩, ⟨'!', "RESET".toList, some '!'⟩] := by
    rw [String.append_assoc, lineMarks_append (by decide +kernel),
      lineMarks_unmarked_append levelFree]
    decide +kernel
  obtain ⟨front, lines, before⟩ : ∃ front, authLines level digest = front ++
      ["if /i NOT \"!hashed_key!\" == \"" ++ digest ++ "\" " ++ authLines.refusal,
       "set \"AUTH_LEVEL=" ++ level ++ "\"",
       "echo !GREEN!Authenticated to level " ++ level ++ " access.!RESET!", "exit /b 0"] ∧
      front.flatMap (lineMarks variableSigns) = authMarks.take 9 := by
    refine ⟨_, (List.append_assoc _ [_, _, _, _, _] _).symm, ?_⟩
    have label : Text.replaceAll "'" "''" "Key" = "Key" := by decide +kernel
    have found : (["where certutil >nul 2>nul"] ++
        (Statement.failIf .failed "certutil was not found.").lines).flatMap
          (lineMarks variableSigns) = [] := by
      decide +kernel
    rw [List.flatMap_append, List.flatMap_append, found, hiddenPrompt, label]
    simp only [List.flatMap_cons, List.flatMap_nil, lineMarks, toString, keyFile,
      String.toList_append]
    repeat rw [String.toList_ofList]
    decide +kernel
  have left : lineMarks variableSigns "exit /b 0" = [] := by
    decide +kernel
  rw [lines, List.flatMap_append, before]
  simp only [List.flatMap_cons, List.flatMap_nil, compared, stored, told, left]
  rfl

theorem marks_authRoutine {level digest : String} (levelFree : Unmarked variableSigns level)
    (digestFree : Unmarked variableSigns digest) :
    marks variableSigns (Routine.ofLines (authName level) s!"Authenticate to level {level}."
      (authLines level digest)).source.toList =
        ⟨'%', "func".toList, some '%'⟩ :: authMarks := by
  have stops : isBreak variableSigns '\n' = true := by decide
  have named : Unmarked variableSigns ("auth_" ++ level) :=
    (show Unmarked variableSigns "auth_" by decide).append levelFree
  have described : Unmarked variableSigns (": " ++ ("Authenticate to level " ++ level ++ ".")) :=
    (show Unmarked variableSigns ": " by decide).append
      (((show Unmarked variableSigns "Authenticate to level " by decide).append levelFree).append
        (by decide))
  have entry : Unmarked variableSigns (":func_" ++ ("auth_" ++ level)) :=
    (show Unmarked variableSigns ":func_" by decide).append named
  have jump : lineMarks variableSigns ("if NOT \"%func%\" == \"" ++ ("auth_" ++ level)
      ++ "\" goto end_func_" ++ ("auth_" ++ level)) = [⟨'%', "func".toList, some '%'⟩] := by
    rw [String.append_assoc, String.append_assoc, lineMarks_append (by decide +kernel),
      lineMarks_of_unmarked (named.append ((show Unmarked _ _ by decide).append named))]
    decide +kernel
  have ending : Unmarked variableSigns (":end_func_" ++ ("auth_" ++ level)) :=
    (show Unmarked variableSigns ":end_func_" by decide).append named
  have last : (authLines level digest).getLast? = some "exit /b 0" := by
    rw [authLines, List.getLast?_append]
    rfl
  have coded := lineMarks_trimEnd stops last ⟨'0', by decide, by decide⟩
  have left : lineMarks variableSigns "exit /b" = [] := by
    decide +kernel
  rw [Routine.source, marks_terminated stops]
  simp only [Routine.ofLines, authName, toString, List.flatMap_cons, List.flatMap_nil,
    lineMarks_of_unmarked described, lineMarks_of_unmarked entry, jump, coded, left,
    lineMarks_of_unmarked ending, marks_authLines levelFree digestFree]
  rfl

end Batch

/-! ## Reserved names -/

theorem argProblems_unreserved (place : String) (arg : Arg) :
    Ends (fun problems => problems = [] → Variables.isReserved arg.name = false) (fun _ => True)
      (argProblems place arg) := by
  cases taken : Variables.isReserved arg.name with
  | false => exact (Ends.any _).mono (fun _ _ _ => rfl) fun _ _ => trivial
  | true =>
      simp only [argProblems, taken, if_true]
      split
      · split
        · exact trivial
        · exact Ends.ok fun none => by simp at none
        · exact Ends.ok fun none => by simp at none
      · exact Ends.ok fun none => by simp at none

/-- No argument of a spec has a reserved name. -/
theorem Spec.unreserved_of_read {payload : Json} {source : String} {spec : Spec}
    (read : Spec.ofJson payload source = .ok spec) :
    ∀ menu ∈ spec.menus, ∀ command ∈ menu.commands, ∀ arg ∈ command.args,
      Variables.isReserved arg.name = false := by
  refine forall_command_of_read read fun menu command => Ends.bind (Ends.any _) fun access _ => ?_
  refine Ends.bind (Ends.mapM_forall₂ fun arg _ => argProblems_unreserved _ arg)
    fun problems all => ?_
  exact Ends.ok fun none => forall_of_flatten_eq_nil all (List.append_eq_nil_iff.1 none).2

theorem isReserved_eq_of_sameName {left right : String}
    (leftWord : ∀ c ∈ left.toList, isWordChar c = true)
    (rightWord : ∀ c ∈ right.toList, isWordChar c = true) (same : SameName left right) :
    Variables.isReserved left = Variables.isReserved right := by
  rw [Variables.isReserved, lower_of_word leftWord, same, ← lower_of_word rightWord,
    Variables.isReserved]

/-! ## Arguments and authentication -/

/-- Nothing in a numeral or in a digest begins the name of a variable. -/
theorem unmarked_level {signs : List Char}
    (apart : signs.all (fun c => !c.isDigit && c ≠ '-') = true) (level : Int) :
    Unmarked signs (toString level) := by
  intro c present listed
  have other := List.all_eq_true.1 apart c listed
  rcases mem_toString_int present with digit | sign
  · simp [digit] at other
  · simp [sign] at other

theorem unmarked_digest {signs : List Char}
    (apart : signs.all (fun c => (hexValue? c).isNone) = true) {digest : String}
    (hexadecimal : ∀ c ∈ digest.toList, (hexValue? c).isSome = true) : Unmarked signs digest := by
  intro c present listed
  have other := List.all_eq_true.1 apart c listed
  have value := hexadecimal c present
  rw [Option.isNone_iff_eq_none.1 other] at value
  cases value

theorem Bash.not_refers_of_unreserved {text name : String}
    (written : marks variableSigns text.toList = authMarks)
    (named : Pattern.identifier.accepts name = true)
    (unreserved : Variables.isReserved name = false) : ¬ Refers text name := by
  intro refers
  obtain ⟨spelling⟩ := exists_spelling named
  obtain ⟨mark, present, word, closed⟩ := exists_mark_of_refers spelling refers
  rw [written] at present
  have known : ∀ mark ∈ authMarks, mark.stop ≠ some '\n' ∧ (isReference mark = true →
      Variables.isReserved (String.ofList mark.word) = true ∨
        Pattern.identifier.accepts (String.ofList mark.word) = false) := by
    decide +kernel
  obtain ⟨unended, taken⟩ := known mark present
  rcases closed with ⟨whole, reference⟩ | feed
  · have same : String.ofList mark.word = name := by
      refine String.toList_inj.1 ?_
      rw [String.toList_ofList, spelling.chars, whole, List.append_nil, word]
    have contrary := taken reference
    rw [same] at contrary
    simp [unreserved, named] at contrary
  · exact unended feed

/-- The directory of temporary files is the one thing in the routine that is not reserved. -/
theorem Batch.refers_iff_of_unreserved {text name : String}
    (written : marks variableSigns text.toList = ⟨'%', "func".toList, some '%'⟩ :: authMarks)
    (named : Pattern.identifier.accepts name = true)
    (unreserved : Variables.isReserved name = false) :
    (∃ spelled, SameName spelled name ∧ Refers text spelled) ↔ SameName name "TEMP" := by
  constructor
  · rintro ⟨spelled, same, refers⟩
    obtain ⟨spelling⟩ := exists_spelling named
    obtain ⟨found, ending⟩ := spelling.exists_of_sameName same
    obtain ⟨mark, present, word, closed⟩ := exists_mark_of_refers found refers
    rw [written] at present
    have known : ∀ mark ∈ (⟨'%', "func".toList, some '%'⟩ :: authMarks : List Mark),
        mark.stop ≠ some '\n' ∧ (isReference mark = true →
          Variables.isReserved (String.ofList mark.word) = true ∨ mark.word = "TEMP".toList) := by
      decide +kernel
    obtain ⟨unended, taken⟩ := known mark present
    rcases closed with ⟨whole, reference⟩ | feed
    · have chars : spelled.toList = mark.word := by
        rw [found.chars, whole, List.append_nil, word]
      rcases taken reference with reserved | temporary
      · have plain : name.toList = spelling.word := by
          rw [spelling.chars, ← ending, whole, List.append_nil]
        have equal := isReserved_eq_of_sameName (chars ▸ word ▸ found.inside)
          (plain ▸ spelling.inside) same
        rw [unreserved, ← String.ofList_toList (s := spelled), chars, reserved] at equal
        cases equal
      · rw [SameName, ← same, chars, temporary]
    · exact absurd feed unended
  · intro same
    have present : ⟨'%', "TEMP".toList, some '%'⟩ ∈ marks variableSigns text.toList := by
      rw [written]
      decide
    have found := refers_of_mark present rfl
    rw [String.ofList_toList] at found
    exact ⟨"TEMP", same.symm, found⟩

/-- The routines that authenticate name no argument of an accepted spec, whatever its letters are,
apart from one: an argument `temp` stands where the batch routine looks for temporary files. -/
theorem auth_names_argument_iff_temp (payload : Json) (source : String) (spec : Spec)
    (accepted : Schema.description.violations payload = [])
    (read : Spec.ofJson payload source = .ok spec) (menu : Menu) (inMenus : menu ∈ spec.menus)
    (command : Command) (inMenu : command ∈ menu.commands) (arg : Arg)
    (inCommand : arg ∈ command.args) (method : AuthMethod)
    (hashed : method.kind.string? = some "hash")
    (hexadecimal : ∀ c ∈ method.digest.toList, (hexValue? c).isSome = true) :
    ∃ bash batch, Bash.authRoutine method = .ok bash ∧ Batch.authRoutine method = .ok batch ∧
      ¬ Bash.Refers bash.source arg.name ∧
      ((∃ spelled, SameName spelled arg.name ∧ Batch.Refers batch.source spelled) ↔
        SameName arg.name "TEMP") := by
  have fits := Schema.violations_eq_nil_iff.1 accepted
  obtain ⟨typed, _⟩ := (Spec.ofJson_ends fits).of_eq_ok read
  have named := (((typed.menus menu inMenus).commands command inMenu).args arg inCommand).named
  have unreserved := Spec.unreserved_of_read read menu inMenus command inMenu arg inCommand
  have bashMarks := Bash.marks_authRoutine (unmarked_level (by decide) method.level)
    (unmarked_digest (by decide) hexadecimal)
  have batchMarks := Batch.marks_authRoutine (unmarked_level (by decide) method.level)
    (unmarked_digest (by decide) hexadecimal)
  refine ⟨_, _, ?_, ?_, Bash.not_refers_of_unreserved bashMarks named unreserved,
    Batch.refers_iff_of_unreserved batchMarks named unreserved⟩
  · rw [Bash.authRoutine, Bash.levelRoutine, if_pos hashed]
  · rw [Batch.authRoutine, Batch.levelRoutine, if_pos hashed]

def tempArg : Arg where
  name := "temp"

def tempCommand : Command where
  name := "go"
  description := "Go."
  args := [tempArg]
  access := some (.int 1)
  bashBody := some (.single "echo")
  batchBody := some (.single "echo")

def tempMethod : AuthMethod :=
  demoMethod 1

def tempSpec : Spec :=
  demoSpec [tempCommand] [1]

/-- An argument with the name of the variable that says where temporary files go. -/
def tempDocument : Json :=
  demoDocument [("go", .obj [
    ("description", .str "Go."), ("args", .obj [("temp", .obj [])]), ("access", .int 1),
    ("bashCommand", .str "echo"), ("batchCommand", .str "echo")])] [demoAuth ["1"]]

theorem tempDocument_argument_captures_key_file :
    Schema.description.violations tempDocument = [] ∧
    Spec.ofJson tempDocument "cli.json" = .ok tempSpec ∧ tempMethod ∈ tempSpec.auth.methods ∧
    ∃ bash batch, Bash.authRoutine tempMethod = .ok bash ∧
      Batch.authRoutine tempMethod = .ok batch ∧ ¬ Bash.Refers bash.source tempArg.name ∧
      ∃ spelled, SameName spelled tempArg.name ∧ Batch.Refers batch.source spelled := by
  have accepted : Schema.description.violations tempDocument = [] := by decide +kernel
  have read : Spec.ofJson tempDocument "cli.json" = .ok tempSpec := rfl
  obtain ⟨bash, batch, bashMade, batchMade, apart, captured⟩ :=
    auth_names_argument_iff_temp tempDocument "cli.json" tempSpec accepted read
      { name := "main", commands := [tempCommand] } List.mem_cons_self tempCommand
      List.mem_cons_self tempArg List.mem_cons_self tempMethod rfl
      (List.all_eq_true.1 (by decide +kernel))
  exact ⟨accepted, read, List.mem_cons_self, bash, batch, bashMade, batchMade, apart,
    captured.2 (by decide)⟩

end ShellMenu
