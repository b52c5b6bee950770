import Mathlib.Data.List.Induction
import Mathlib.Data.List.Nodup
import Mathlib.Data.List.Perm.Subperm
import ShellMenu.Proofs.Spec.Names
import ShellMenu.Proofs.Spec.Typed

/-
  What the patterns of the schema leave open. The end of a text is also the place before a final
  line feed, so a name, a digest or the key of a level in an accepted document is what it should be
  up to one line feed at its end. Two keys that differ in it alone name one level.
-/

namespace ShellMenu

namespace Text

/-- The text without one line feed at its end. -/
def chomp (text : String) : String :=
  if text.toList.getLast? = some '\n' then String.ofList text.toList.dropLast else text

/-- A letter or an underscore, then letters, digits and underscores. -/
def isIdentifier (text : String) : Bool :=
  match text.toList with
  | [] => false
  | first :: rest => (first.isAlpha || first = '_') && rest.all fun c => c.isAlphanum || c = '_'

def isUnspaced (text : String) : Bool :=
  text.toList.all fun c => !isBlank c

def isDigest (text : String) : Bool :=
  text.length = 40 && text.toList.all fun c => (hexValue? c).isSome

/-- A decimal numeral without a leading zero. -/
def isLevel (text : String) : Bool :=
  match text.toList with
  | [] => false
  | first :: rest => first ≠ '0' && (first :: rest).all Char.isDigit

theorem chomp_append (body : String) : chomp (body ++ "\n") = body := by
  simp [chomp]

theorem chomp_of_not_mem {text : String} (free : '\n' ∉ text.toList) : chomp text = text := by
  rw [chomp, if_neg]
  exact fun last => free (List.mem_of_getLast? last)

theorem eq_chomp_or (text : String) : text = chomp text ∨ text = chomp text ++ "\n" := by
  rw [chomp]
  split
  · next last =>
      refine Or.inr ?_
      obtain ⟨body, same⟩ := List.getLast?_eq_some_iff.1 last
      rw [same, List.dropLast_concat, ← String.toList_inj, same]
      simp
  · exact Or.inl rfl

end Text

/-! ## Patterns -/

/-- As it should be up to a line feed at the end, and as a whole only without one. -/
structure WholeUpToNewline (holds : String → Bool) (text : String) : Prop where
  chomped : holds (Text.chomp text) = true
  whole_iff : holds text = true ↔ Text.chomp text = text

theorem Pattern.whole_of_accepts {pattern : Pattern} {holds : String → Bool} {text : String}
    (describes : ∀ chars, pattern.fits chars = true → holds (String.ofList chars) = true)
    (excludes : ∀ text, holds text = true → '\n' ∉ text.toList)
    (accepted : pattern.accepts text = true) : WholeUpToNewline holds text := by
  obtain ⟨body, ending, chars, newline, fit⟩ := exists_fits_of_accepts accepted
  have described := describes body fit
  have free : '\n' ∉ body := by simpa using excludes _ described
  rcases newline with rfl | rfl
  · have same : text = String.ofList body := by
      rw [← String.toList_inj, chars]
      simp
    subst same
    have kept := Text.chomp_of_not_mem (excludes _ described)
    exact ⟨by rwa [kept], iff_of_true described kept⟩
  · have same : text = String.ofList body ++ "\n" := by
      rw [← String.toList_inj, chars]
      simp
    subst same
    have chomped := Text.chomp_append (String.ofList body)
    refine ⟨by rwa [chomped], iff_of_false (fun whole => ?_) fun kept => ?_⟩
    · exact excludes _ whole (by simp)
    · rw [chomped, ← String.toList_inj] at kept
      simp at kept

/-! ## Characters -/

theorem Text.isWordChar_of_mem {text : String} (named : isIdentifier text = true) {c : Char}
    (present : c ∈ text.toList) : c.isAlphanum = true ∨ c = '_' := by
  unfold isIdentifier at named
  cases chars : text.toList with
  | nil => simp [chars] at present
  | cons first rest =>
      simp only [chars, Bool.and_eq_true, Bool.or_eq_true, decide_eq_true_eq, List.all_eq_true]
        at named present
      rcases List.mem_cons.1 present with rfl | later
      · exact named.1.imp_left fun letter => by simp [Char.isAlphanum, letter]
      · exact named.2 c later

theorem Text.isDigit_of_mem_level {text : String} (numeral : isLevel text = true) {c : Char}
    (present : c ∈ text.toList) : c.isDigit = true := by
  unfold isLevel at numeral
  cases chars : text.toList with
  | nil => simp [chars] at present
  | cons first rest =>
      simp only [chars, Bool.and_eq_true, List.all_eq_true] at numeral present
      exact numeral.2 c present

theorem Text.isAlpha_eq (c : Char) :
    c.isAlpha = ('A' ≤ c && c ≤ 'Z' || 'a' ≤ c && c ≤ 'z') := by
  rw [← Bool.decide_and]
  rfl

namespace Pattern

theorem has_letters (c : Char) :
    CharClass.has { members := lettersAndUnderscore } c = (c.isAlpha || c = '_') := by
  simp [CharClass.has, ClassMember.has, lettersAndUnderscore, Text.isAlpha_eq, Bool.or_assoc]

theorem has_identifier_rest (c : Char) : identifier.rest.has c = (c.isAlphanum || c = '_') := by
  simp [CharClass.has, ClassMember.has, identifier, Char.isAlphanum, Text.isAlpha_eq,
    Char.isDigit, Char.le_def, Bool.or_assoc]

theorem has_level_first (c : Char) :
    CharClass.has { members := [.range '1' '9'] } c = (c ≠ '0' && c.isDigit) := by
  have zero : c = '0' ↔ c.toNat = 48 := ⟨fun same => same ▸ rfl, fun same => Char.toNat_inj.1 same⟩
  have low : '1' ≤ c ↔ 49 ≤ c.toNat := Iff.rfl
  have high : c ≤ '9' ↔ c.toNat ≤ 57 := Iff.rfl
  have digit : c.isDigit = true ↔ 48 ≤ c.toNat ∧ c.toNat ≤ 57 := by
    simp [Char.isDigit, UInt32.le_iff_toNat_le]
  rw [Bool.eq_iff_iff]
  simp only [CharClass.has, ClassMember.has, List.any_cons, List.any_nil, Bool.or_false,
    Bool.bne_false, Bool.and_eq_true, decide_eq_true_eq, ne_eq, zero, low, high, digit]
  omega

theorem has_level_rest (c : Char) : level.rest.has c = c.isDigit := by
  simp [CharClass.has, ClassMember.has, level, Char.isDigit, Char.le_def]

theorem has_digest (c : Char) : digest.rest.has c = (Text.hexValue? c).isSome := by
  simp only [CharClass.has, ClassMember.has, digest, Text.hexValue?]
  grind

theorem not_isBlank_of_has_commandName {c : Char} (listed : commandName.rest.has c = true) :
    Text.isBlank c = false := by
  simp only [CharClass.has, ClassMember.has, commandName, List.any_cons, bne_iff_ne, ne_eq,
    Bool.not_eq_true, Bool.or_eq_false_iff] at listed
  exact listed.1

end Pattern

/-! ## Kinds of text -/

section Kinds

variable {text : String}

theorem identifier_whole (accepted : Pattern.identifier.accepts text = true) :
    WholeUpToNewline Text.isIdentifier text := by
  refine Pattern.whole_of_accepts (fun chars fit => ?_) (fun text named present => ?_) accepted
  · cases chars with
    | nil => cases fit
    | cons first rest =>
        have fitting : (first.isAlpha || first = '_')
            && (rest.all Pattern.identifier.rest.has && true) := Pattern.has_letters first ▸ fit
        rw [Bool.and_true, funext Pattern.has_identifier_rest] at fitting
        simpa [Text.isIdentifier] using fitting
  · have word := Text.isWordChar_of_mem named present
    revert word
    decide

theorem commandName_whole (accepted : Pattern.commandName.accepts text = true) :
    WholeUpToNewline Text.isUnspaced text := by
  refine Pattern.whole_of_accepts (fun chars fit => ?_) (fun text unspaced present => ?_) accepted
  · obtain ⟨listed, _⟩ := Bool.and_eq_true_iff.1 (show
      (chars.all Pattern.commandName.rest.has && Pattern.commandName.count.allows chars.length)
        = true from fit)
    rw [Text.isUnspaced, String.toList_ofList, List.all_eq_true]
    intro c present
    have dark := Pattern.not_isBlank_of_has_commandName (List.all_eq_true.1 listed c present)
    rw [dark, Bool.not_false]
  · have solid := List.all_eq_true.1 unspaced _ present
    revert solid
    decide

theorem digest_whole (accepted : Pattern.digest.accepts text = true) :
    WholeUpToNewline Text.isDigest text := by
  refine Pattern.whole_of_accepts (fun chars fit => ?_) (fun text digest present => ?_) accepted
  · obtain ⟨listed, counted⟩ := Bool.and_eq_true_iff.1 (show
      (chars.all Pattern.digest.rest.has && Pattern.digest.count.allows chars.length) = true
        from fit)
    rw [funext Pattern.has_digest] at listed
    have length : chars.length = 40 := of_decide_eq_true counted
    simp [Text.isDigest, listed, length]
  · have hex := List.all_eq_true.1 (Bool.and_eq_true_iff.1 digest).2 _ present
    revert hex
    decide

theorem level_whole (accepted : Pattern.level.accepts text = true) :
    WholeUpToNewline Text.isLevel text := by
  refine Pattern.whole_of_accepts (fun chars fit => ?_) (fun text numeral present => ?_) accepted
  · cases chars with
    | nil => cases fit
    | cons first rest =>
        have fitting : (first ≠ '0' && first.isDigit)
            && (rest.all Pattern.level.rest.has && true) := Pattern.has_level_first first ▸ fit
        rw [Bool.and_true, funext Pattern.has_level_rest] at fitting
        simpa [Text.isLevel, Bool.and_assoc] using fitting
  · have digit := Text.isDigit_of_mem_level numeral present
    revert digit
    decide

end Kinds

/-! ## Keys of levels -/

namespace Text

theorem digitChar_of_isDigit {c : Char} (digit : c.isDigit = true) :
    (c.toNat - 48).digitChar = c := by
  have range : 48 ≤ c.toNat ∧ c.toNat ≤ 57 := by
    simpa [Char.isDigit, UInt32.le_iff_toNat_le] using digit
  rw [← Char.toNat_inj, Nat.toNat_digitChar_of_lt_ten (by omega)]
  omega

/-- A numeral without a leading zero is the one that its value is written with. -/
theorem toDigits_ofDigitChars {digits : List Char}
    (numeral : isLevel (String.ofList digits) = true) :
    Nat.toDigits 10 (Nat.ofDigitChars 10 digits 0) = digits := by
  induction digits using List.reverseRecOn with
  | nil => cases numeral
  | append_singleton front last ih =>
      have digit : last.isDigit = true := isDigit_of_mem_level numeral (by simp)
      have range : 48 ≤ last.toNat ∧ last.toNat ≤ 57 := by
        simpa [Char.isDigit, UInt32.le_iff_toNat_le] using digit
      have value : Nat.ofDigitChars 10 (front ++ [last]) 0 =
          10 * Nat.ofDigitChars 10 front 0 + (last.toNat - 48) := by
        simp [Nat.ofDigitChars_eq_foldl]
      cases front with
      | nil =>
          rw [value, Nat.ofDigitChars_nil, Nat.toDigits_of_lt_base (by omega)]
          simp [digitChar_of_isDigit digit]
      | cons first rest =>
          have leading : isLevel (String.ofList (first :: rest)) = true := by
            simp only [isLevel, String.toList_ofList, List.cons_append, Bool.and_eq_true,
              List.all_cons, List.all_append] at numeral ⊢
            exact ⟨numeral.1, numeral.2.1, numeral.2.2.1⟩
          have same := ih leading
          have positive : Nat.ofDigitChars 10 (first :: rest) 0 ≠ 0 := by
            intro none
            rw [none] at same
            have lead : first = '0' := by simpa using (congrArg List.head? same).symm
            simp [isLevel, lead] at leading
          rw [value, Nat.toDigits_of_base_le (by decide) (by omega)]
          have quotient : (10 * Nat.ofDigitChars 10 (first :: rest) 0 + (last.toNat - 48)) / 10 =
              Nat.ofDigitChars 10 (first :: rest) 0 := by omega
          have remainder : (10 * Nat.ofDigitChars 10 (first :: rest) 0 + (last.toNat - 48)) % 10 =
              last.toNat - 48 := by omega
          rw [quotient, remainder, same, digitChar_of_isDigit digit]

theorem integer?_eq_natural?_chomp {key : String} (level : Pattern.level.accepts key = true) :
    integer? key = (natural? (chomp key).toList).map Int.ofNat := by
  obtain ⟨first, rest, ending, chars, newline, low, high, digits⟩ := exists_digits_of_level level
  have all : ∀ c ∈ first :: rest, IsDigit c :=
    List.forall_mem_cons.2 ⟨⟨Char.le_trans (by decide) low, high⟩, digits⟩
  have free : '\n' ∉ first :: rest := fun present => absurd (all _ present).1 (by decide)
  have chomped : (chomp key).toList = first :: rest := by
    rcases newline with rfl | rfl
    · rw [List.append_nil] at chars
      rw [chomp_of_not_mem (chars ▸ free), chars]
    · have same : key = String.ofList (first :: rest) ++ "\n" := by
        rw [← String.toList_inj, chars]
        simp
      rw [same, chomp_append, String.toList_ofList]
  rw [chomped, integer?_eq_natural? chars newline all]

theorem natural?_eq_ofDigitChars {digits : List Char} {value : Nat}
    (numeral : isLevel (String.ofList digits) = true) (read : natural? digits = some value) :
    value = Nat.ofDigitChars 10 digits 0 := by
  cases digits with
  | nil => cases numeral
  | cons first rest =>
      have all : ∀ c ∈ first :: rest, IsDigit c := by
        intro c present
        have digit := isDigit_of_mem_level numeral (by simpa using present)
        simpa [Char.isDigit, Char.le_def, IsDigit] using digit
      obtain ⟨firstDigit, others⟩ := List.forall_mem_cons.1 all
      rw [natural?] at read
      split at read
      · cases read
      · rw [firstDigit.value, Option.bind_some, digitsFrom?_eq others, Option.some.injEq] at read
        rw [← read, Nat.ofDigitChars_cons, Nat.mul_zero, Nat.zero_add]
        rfl

/-- Keys that can be read name one level exactly if they are the same up to a line feed. -/
theorem integer?_eq_iff_chomp_eq {left right : String} {value : Int}
    (leftLevel : Pattern.level.accepts left = true)
    (rightLevel : Pattern.level.accepts right = true) (read : integer? left = some value) :
    integer? left = integer? right ↔ chomp left = chomp right := by
  constructor
  · intro same
    rw [same] at read
    have rightRead := read
    rw [← same] at read
    rw [integer?_eq_natural?_chomp leftLevel] at read
    rw [integer?_eq_natural?_chomp rightLevel] at rightRead
    obtain ⟨n, leftValue, rfl⟩ := Option.map_eq_some_iff.1 read
    obtain ⟨m, rightValue, equal⟩ := Option.map_eq_some_iff.1 rightRead
    have numbers : m = n := Int.ofNat_inj.1 equal
    have leftWhole : isLevel (String.ofList (chomp left).toList) = true := by
      simpa using (level_whole leftLevel).chomped
    have rightWhole : isLevel (String.ofList (chomp right).toList) = true := by
      simpa using (level_whole rightLevel).chomped
    have digits : (chomp left).toList = (chomp right).toList := by
      rw [← toDigits_ofDigitChars leftWhole, ← toDigits_ofDigitChars rightWhole,
        ← natural?_eq_ofDigitChars leftWhole leftValue,
        ← natural?_eq_ofDigitChars rightWhole rightValue, numbers]
    exact String.toList_inj.1 digits
  · intro same
    rw [integer?_eq_natural?_chomp leftLevel, integer?_eq_natural?_chomp rightLevel, same]

end Text

/-! ## Tables of levels -/

namespace AuthTable

theorem mem_levels_insertInto {method : AuthMethod} {methods : List AuthMethod} {level : Int} :
    level ∈ (method.insertInto methods).map AuthMethod.level ↔
      level = method.level ∨ level ∈ methods.map AuthMethod.level := by
  induction methods with
  | nil => simp [AuthMethod.insertInto]
  | cons other rest ih =>
      simp only [AuthMethod.insertInto]
      split
      · simp
      · split
        · next same => simp [same]
        · rw [List.map_cons, List.mem_cons, ih, List.map_cons, List.mem_cons]
          exact or_left_comm

theorem mem_levels_ofList {methods : List AuthMethod} {level : Int} :
    level ∈ (ofList methods).levels ↔ level ∈ methods.map AuthMethod.level := by
  have kept : ∀ (rest : List AuthMethod) (table : AuthTable),
      level ∈ (rest.foldl insert table).levels ↔
        level ∈ table.levels ∨ level ∈ rest.map AuthMethod.level := by
    intro rest
    induction rest with
    | nil => simp
    | cons next rest ih =>
        intro table
        rw [List.foldl_cons, ih, levels, insert, mem_levels_insertInto, List.map_cons,
          List.mem_cons, or_assoc, levels]
        exact or_left_comm
  rw [ofList, kept methods {}]
  simp [levels]

theorem nodup_levels (table : AuthTable) : table.levels.Nodup :=
  (List.pairwise_map.2 table.ascending).imp fun below => Int.ne_of_lt below

theorem levels_ofList_perm {methods : List AuthMethod}
    (distinct : (methods.map AuthMethod.level).Nodup) :
    (ofList methods).levels.Perm (methods.map AuthMethod.level) :=
  (List.perm_ext_iff_of_nodup (nodup_levels _) distinct).2 fun _ => mem_levels_ofList

/-- No method makes way exactly if all of them are for different levels. -/
theorem length_ofList_eq_iff {methods : List AuthMethod} :
    (ofList methods).methods.length = methods.length ↔ (methods.map AuthMethod.level).Nodup := by
  have lengths : (ofList methods).methods.length = (ofList methods).levels.length := by
    simp [levels]
  constructor
  · intro same
    have inside : (ofList methods).levels ⊆ methods.map AuthMethod.level :=
      fun level present => mem_levels_ofList.1 present
    have listed := List.subperm_of_subset (nodup_levels _) inside
    have whole : (ofList methods).levels.Perm (methods.map AuthMethod.level) :=
      listed.perm_of_length_le (by simp [← lengths, same])
    exact whole.nodup_iff.1 (nodup_levels _)
  · intro distinct
    rw [lengths, (levels_ofList_perm distinct).length_eq, List.length_map]

end AuthTable

/-! ## Documents -/

namespace Json

/-- The members of an object inside another one. -/
def membersAt (value : Json) (name : String) : List (String × Json) :=
  match value.member? name with
  | some (.obj members) => members
  | _ => []

def itemsAt (value : Json) (name : String) : List Json :=
  match value.member? name with
  | some (.arr items) => items
  | _ => []

/-- The commands of all menus of a document. -/
def commandEntries (payload : Json) : List (String × Json) :=
  (payload.membersAt "menus").flatMap fun menu => menu.2.membersAt "commands"

/-- The arguments of all commands of a document. -/
def argEntries (payload : Json) : List (String × Json) :=
  payload.commandEntries.flatMap fun command => command.2.membersAt "args"

end Json

namespace Schema.Accepts

variable {required : List String} {fields : List (String × Schema)} {payload : Json} {name : String}

theorem membersAt {names : Pattern} {values : Schema}
    (accepted : (record required fields).Accepts payload)
    (declared : ∃ nonEmpty, (name, Schema.map nonEmpty names values) ∈ fields)
    {entry : String × Json} (present : entry ∈ payload.membersAt name) :
    names.accepts entry.1 = true ∧ values.Accepts entry.2 := by
  obtain ⟨nonEmpty, declared⟩ := declared
  unfold Json.membersAt at present
  split at present
  · next members found =>
      obtain ⟨_, same, _, each⟩ := accepts_map_iff.1 (accepted.member declared found)
      cases same
      exact each entry present
  · cases present

theorem itemsAt {items : Schema} (accepted : (record required fields).Accepts payload)
    (declared : (name, Schema.list items) ∈ fields) {item : Json}
    (present : item ∈ payload.itemsAt name) : items.Accepts item := by
  unfold Json.itemsAt at present
  split at present
  · next values found =>
      obtain ⟨_, same, each⟩ := accepts_list_iff.1 (accepted.member declared found)
      cases same
      exact each item present
  · cases present

end Schema.Accepts

section Documents

open Schema

variable {payload : Json} (accepted : Schema.description.Accepts payload)
include accepted

theorem menuEntry_accepts {entry : String × Json} (present : entry ∈ payload.membersAt "menus") :
    Pattern.identifier.accepts entry.1 = true ∧ Schema.menu.Accepts entry.2 := by
  unfold Schema.description at accepted
  have fits : Pattern.identifier.accepts entry.1 = true ∧
      (Schema.named "menu" Schema.menu).Accepts entry.2 := accepted.membersAt (by simp) present
  exact fits.imp_right accepts_named_iff.1

theorem commandEntry_accepts {entry : String × Json} (present : entry ∈ payload.commandEntries) :
    Pattern.commandName.accepts entry.1 = true ∧ Schema.command.Accepts entry.2 := by
  obtain ⟨menu, inside, here⟩ := List.mem_flatMap.1 present
  have outer := (menuEntry_accepts accepted inside).2
  unfold Schema.menu at outer
  have fits : Pattern.commandName.accepts entry.1 = true ∧
      (Schema.named "command" Schema.command).Accepts entry.2 := outer.membersAt (by simp) here
  exact fits.imp_right accepts_named_iff.1

theorem argEntry_named {entry : String × Json} (present : entry ∈ payload.argEntries) :
    Pattern.identifier.accepts entry.1 = true := by
  obtain ⟨command, inside, here⟩ := List.mem_flatMap.1 present
  have outer := (commandEntry_accepts accepted inside).2
  unfold Schema.command at outer
  have fits : Pattern.identifier.accepts entry.1 = true ∧
      (Schema.named "arg" Schema.arg).Accepts entry.2 := outer.membersAt (by simp) here
  exact fits.1

theorem alias_named {entry : String × Json} (present : entry ∈ payload.commandEntries) {word : Json}
    (listed : word ∈ entry.2.itemsAt "aliases") :
    ∃ text, word = .str text ∧ Pattern.commandName.accepts text = true := by
  have outer := (commandEntry_accepts accepted present).2
  unfold Schema.command at outer
  have fits : (Schema.text false (some Pattern.commandName)).Accepts word :=
    outer.itemsAt (by simp) listed
  obtain ⟨text, same, _, named⟩ := accepts_text_iff.1 fits
  exact ⟨text, same, named _ rfl⟩

theorem authEntry_accepts {entry : String × Json} (present : entry ∈ payload.membersAt "auth") :
    Pattern.level.accepts entry.1 = true ∧ Schema.authMethod.Accepts entry.2 := by
  unfold Schema.description at accepted
  have fits : Pattern.level.accepts entry.1 = true ∧
      (Schema.named "authMethod" Schema.authMethod).Accepts entry.2 :=
    accepted.membersAt (by simp) present
  exact fits.imp_right accepts_named_iff.1

end Documents

open Schema in
theorem exists_hash {method : Json} (accepted : Schema.authMethod.Accepts method) :
    ∃ hash, method.member? "hash" = some (.str hash) ∧ Pattern.digest.accepts hash = true := by
  unfold Schema.authMethod at accepted
  obtain ⟨members, rfl, _, needed, fitting⟩ := accepts_record_iff.1 accepted
  obtain ⟨value, found⟩ := needed "hash" (by simp)
  have fits : (Schema.text false (some Pattern.digest)).Accepts value :=
    fitting ("hash", .text false (some Pattern.digest)) (by simp) value found
  obtain ⟨hash, rfl, _, digest⟩ := accepts_text_iff.1 fits
  exact ⟨hash, found, digest _ rfl⟩

/-! ## Entries that are lost -/

theorem integer?_of_ofJson (key : String) (payload : Json) :
    Ends (fun method => some method.level = Text.integer? key) (fun _ => True)
      (AuthMethod.ofJson key payload) := by
  unfold AuthMethod.ofJson
  cases read : Text.integer? key with
  | none => exact trivial
  | some level =>
      refine Ends.bind (Ends.any _) fun kind _ => Ends.bind (Ends.any _) fun hash _ => ?_
      exact Ends.ok rfl

/-- The levels of the entries are different exactly if no key is another one with a line feed. -/
theorem nodup_levels_iff {entries : List (String × Json)}
    (named : ∀ entry ∈ entries, Pattern.level.accepts entry.1 = true)
    (readable : ∀ entry ∈ entries, ∃ level, Text.integer? entry.1 = some level)
    (distinct : (entries.map Prod.fst).Nodup) :
    (entries.map fun entry => Text.integer? entry.1).Nodup ↔
      ∀ entry ∈ entries, entry.1 ++ "\n" ∉ entries.map Prod.fst := by
  have same_iff : ∀ left ∈ entries, ∀ right ∈ entries,
      Text.integer? left.1 = Text.integer? right.1 ↔ Text.chomp left.1 = Text.chomp right.1 := by
    intro left inLeft right inRight
    obtain ⟨level, read⟩ := readable left inLeft
    exact Text.integer?_eq_iff_chomp_eq (named left inLeft) (named right inRight) read
  rw [List.nodup_map_iff_inj_on distinct.of_map]
  constructor
  · intro injective entry present twin
    obtain ⟨other, inside, key⟩ := List.mem_map.1 twin
    have whole := (level_whole (named other inside)).chomped
    rw [key, Text.chomp_append] at whole
    have free : '\n' ∉ entry.1.toList := fun found =>
      absurd (Text.isDigit_of_mem_level whole found) (by decide)
    have chomped : Text.chomp other.1 = Text.chomp entry.1 := by
      rw [key, Text.chomp_append, Text.chomp_of_not_mem free]
    have equal := injective other inside entry present ((same_iff _ inside _ present).2 chomped)
    rw [equal, ← String.toList_inj] at key
    simp at key
  · intro alone left inLeft right inRight same
    have chomped := (same_iff left inLeft right inRight).1 same
    have keys : left.1 = right.1 := by
      rcases Text.eq_chomp_or left.1 with leftKey | leftKey
      · rcases Text.eq_chomp_or right.1 with rightKey | rightKey
        · rw [leftKey, rightKey, chomped]
        · rw [← chomped, ← leftKey] at rightKey
          exact absurd (rightKey ▸ List.mem_map_of_mem inRight) (alone left inLeft)
      · rcases Text.eq_chomp_or right.1 with rightKey | rightKey
        · rw [chomped, ← rightKey] at leftKey
          exact absurd (leftKey ▸ List.mem_map_of_mem inLeft) (alone right inRight)
        · rw [leftKey, rightKey, chomped]
    exact List.inj_on_of_nodup_map distinct inLeft inRight keys

/-- The table of a spec is made from the entries of the document, one method after the other. -/
theorem exists_methods_of_read {payload : Json} {source : String} {spec : Spec}
    (read : Spec.ofJson payload source = .ok spec) :
    ∃ entries methods, Json.entries (payload.given? "auth") = .ok entries ∧
      (entries.mapM fun entry => AuthMethod.ofJson entry.1 entry.2) = .ok methods ∧
      spec.auth = AuthTable.ofList methods := by
  obtain ⟨entries, listed, rest⟩ := exists_of_bind_eq_ok (Spec.exists_checked_of_read read).1
  obtain ⟨methods, each, table⟩ := exists_of_bind_eq_ok rest
  exact ⟨entries, methods, listed, each, (Except.ok.inj table).symm⟩

theorem levels_kept_iff {payload : Json} {source : String} {spec : Spec}
    (accepted : Schema.description.Accepts payload)
    (read : Spec.ofJson payload source = .ok spec) :
    ∃ entries, Json.entries (payload.given? "auth") = .ok entries ∧
      ((entries.map fun entry => Text.integer? entry.1).Nodup ↔
        ∀ entry ∈ entries, entry.1 ++ "\n" ∉ entries.map Prod.fst) ∧
      (spec.levels.length = entries.length ↔
        ∀ entry ∈ entries, entry.1 ++ "\n" ∉ entries.map Prod.fst) := by
  obtain ⟨entries, methods, listed, made, table⟩ := exists_methods_of_read read
  have named : ∀ entry ∈ entries, Pattern.level.accepts entry.1 = true := by
    intro entry present
    obtain ⟨members, found, inside⟩ := (Json.entries_ends _).of_eq_ok listed entry present
    have here : entry ∈ payload.membersAt "auth" := by
      rw [Json.membersAt, Json.member?_of_given? found]
      exact inside
    exact (authEntry_accepts accepted here).1
  have levels : methods.map (fun method => some method.level) =
      entries.map fun entry => Text.integer? entry.1 :=
    (Ends.mapM_view fun entry _ => integer?_of_ofJson entry.1 entry.2).of_eq_ok made
  have readable : ∀ entry ∈ entries, ∃ level, Text.integer? entry.1 = some level := by
    intro entry present
    have inside : Text.integer? entry.1 ∈ methods.map fun method => some method.level :=
      levels ▸ List.mem_map_of_mem present
    obtain ⟨method, _, same⟩ := List.mem_map.1 inside
    exact ⟨method.level, same.symm⟩
  have distinct := (Json.entries_distinct _).of_eq_ok listed
  have differ := nodup_levels_iff named readable distinct
  have counted : spec.levels.length = (AuthTable.ofList methods).methods.length := by
    rw [Spec.levels, table, AuthTable.levels, List.length_map]
  have many : methods.length = entries.length := by
    simpa using congrArg List.length levels
  refine ⟨entries, listed, differ, ?_⟩
  rw [counted, ← many, AuthTable.length_ofList_eq_iff, ← differ, ← levels]
  constructor
  · intro apart
    have lifted := apart.map (f := some) fun _ _ same => Option.some.inj same
    rwa [List.map_map] at lifted
  · intro apart
    refine List.Nodup.of_map some ?_
    rwa [List.map_map]

/-- Names, aliases, digests and keys of levels in an accepted document are what they should be
exactly if no line feed follows. Every entry keeps its level exactly if no key is another one with
a line feed after it. -/
theorem accepted_texts_whole_iff (payload : Json)
    (accepted : Schema.description.violations payload = []) :
    (∀ entry ∈ payload.membersAt "menus" ++ payload.argEntries,
      WholeUpToNewline Text.isIdentifier entry.1) ∧
    (∀ entry ∈ payload.commandEntries, WholeUpToNewline Text.isUnspaced entry.1 ∧
      ∀ word ∈ entry.2.itemsAt "aliases",
        ∃ text, word = .str text ∧ WholeUpToNewline Text.isUnspaced text) ∧
    (∀ entry ∈ payload.membersAt "auth", WholeUpToNewline Text.isLevel entry.1 ∧
      ∃ hash, entry.2.member? "hash" = some (.str hash) ∧ WholeUpToNewline Text.isDigest hash) ∧
    ∀ source spec, Spec.ofJson payload source = .ok spec →
      ∃ entries, Json.entries (payload.given? "auth") = .ok entries ∧
        ((entries.map fun entry => Text.integer? entry.1).Nodup ↔
          ∀ entry ∈ entries, entry.1 ++ "\n" ∉ entries.map Prod.fst) ∧
        (spec.levels.length = entries.length ↔
          ∀ entry ∈ entries, entry.1 ++ "\n" ∉ entries.map Prod.fst) := by
  have fits := Schema.violations_eq_nil_iff.1 accepted
  refine ⟨fun entry present => ?_, fun entry present => ⟨?_, fun word listed => ?_⟩,
    fun entry present => ?_, fun source spec read => levels_kept_iff fits read⟩
  · rcases List.mem_append.1 present with menu | arg
    · exact identifier_whole (menuEntry_accepts fits menu).1
    · exact identifier_whole (argEntry_named fits arg)
  · exact commandName_whole (commandEntry_accepts fits present).1
  · obtain ⟨text, same, named⟩ := alias_named fits present listed
    exact ⟨text, same, commandName_whole named⟩
  · obtain ⟨named, method⟩ := authEntry_accepts fits present
    obtain ⟨hash, found, digest⟩ := exists_hash method
    exact ⟨level_whole named, hash, found, digest_whole digest⟩

/-- Every text that a pattern looks at has a line feed at its end. -/
def fedDocument : Json :=
  .obj [("title", .str "Demo"), ("uri", .str "demo.dev"), ("mainMenu", .str "main\n"),
    ("menus", .obj [("main\n", .obj [("commands", .obj [("go\n", .obj [
      ("description", .str "Go."), ("args", .obj [("steps\n", .obj [])]),
      ("aliases", .arr [.str "g\n"])])])])]),
    ("auth", .obj [
      ("1", .obj [
        ("type", .str "hash"), ("hash", .str "da39a3ee5e6b4b0d3255bfef95601890afd80709")]),
      ("1\n", .obj [
        ("type", .str "hash"), ("hash", .str "da39a3ee5e6b4b0d3255bfef95601890afd80709\n")])])]

theorem fedDocument_texts_not_whole :
    Schema.description.violations fedDocument = [] ∧
    (∃ entry ∈ fedDocument.membersAt "menus", Text.isIdentifier entry.1 = false) ∧
    (∃ entry ∈ fedDocument.argEntries, Text.isIdentifier entry.1 = false) ∧
    (∃ entry ∈ fedDocument.commandEntries, Text.isUnspaced entry.1 = false) ∧
    (∃ entry ∈ fedDocument.membersAt "auth", Text.isLevel entry.1 = false) ∧
    ∃ spec, Spec.ofJson fedDocument "cli.json" = .ok spec ∧
      ∃ entries, Json.entries (fedDocument.given? "auth") = .ok entries ∧
        spec.levels.length ≠ entries.length := by
  have accepted : Schema.description.violations fedDocument = [] := by decide +kernel
  obtain ⟨identifiers, words, levels, kept⟩ := accepted_texts_whole_iff fedDocument accepted
  have fed : ∀ {holds : String → Bool} {text : String}, WholeUpToNewline holds text →
      Text.chomp text ≠ text → holds text = false := fun whole ends =>
    Bool.eq_false_iff.2 (mt whole.whole_iff.1 ends)
  have menu : ("main\n", _) ∈ fedDocument.membersAt "menus" := List.mem_cons_self
  have arg : ("steps\n", _) ∈ fedDocument.argEntries := List.mem_cons_self
  have command : ("go\n", _) ∈ fedDocument.commandEntries := List.mem_cons_self
  have key : ("1\n", _) ∈ fedDocument.membersAt "auth" := List.mem_cons_of_mem _ List.mem_cons_self
  obtain ⟨spec, read⟩ : ∃ spec, Spec.ofJson fedDocument "cli.json" = .ok spec := ⟨_, rfl⟩
  obtain ⟨entries, listed, _, counted⟩ := kept "cli.json" spec read
  refine ⟨accepted, ⟨_, menu, fed (identifiers _ (List.mem_append_left _ menu)) (by decide)⟩,
    ⟨_, arg, fed (identifiers _ (List.mem_append_right _ arg)) (by decide)⟩,
    ⟨_, command, fed (words _ command).1 (by decide)⟩,
    ⟨_, key, fed (levels _ key).1 (by decide)⟩, spec, read, entries, listed, mt counted.1 ?_⟩
  intro alone
  have both : Json.entries (fedDocument.given? "auth") = .ok _ := rfl
  cases Except.ok.inj (listed.symm.trans both)
  exact alone _ List.mem_cons_self (by decide)

end ShellMenu
