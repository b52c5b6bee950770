import ShellMenu.Digest
import ShellMenu.Proofs.Plan.Gates
import ShellMenu.Proofs.Spec.LevelOrder

/-
  From a printed digest to the scripts. The digest of a key is printed as forty digits in lower
  case. A document may spell its letters either way: the schema has nothing against any spelling,
  reading turns each into the printed one, and that is the text both scripts compare with.
-/

namespace ShellMenu

/-! ## Spellings -/

namespace Digest

/-- The digits of a printed digest. -/
def digits : List Char := "0123456789abcdef".toList

theorem hexDigit_mem_digits (n : Nat) : Text.hexDigit n ∈ digits := by
  have each : ∀ value < 16, Nat.digitChar value ∈ digits := by decide
  exact each (n % 16) (Nat.mod_lt n (by decide))

theorem mem_digits_of_mem_hexDigits {width n : Nat} {c : Char}
    (present : c ∈ Text.hexDigits width n) : c ∈ digits := by
  induction width generalizing n with
  | zero => cases present
  | succ width ih =>
      rcases List.mem_append.1 present with earlier | last
      · exact ih earlier
      · exact List.mem_singleton.1 last ▸ hexDigit_mem_digits n

theorem length_hex (s : State) : (hex s).toList.length = 40 := by
  simp [hex, State.words, length_hexDigits]

theorem mem_digits_of_mem_hex {s : State} {c : Char} (present : c ∈ (hex s).toList) :
    c ∈ digits := by
  rw [hex, String.toList_ofList] at present
  obtain ⟨word, _, inside⟩ := List.mem_flatMap.1 present
  exact mem_digits_of_mem_hexDigits inside

/-- The same digits, and any of the letters in upper case. -/
def Spelling (hash digest : String) : Prop :=
  List.Forall₂ (fun c digit => c = digit ∨ c = digit.toUpper) hash.toList digest.toList

theorem Spelling.refl (digest : String) : Spelling digest digest :=
  List.forall₂_same.2 fun _ _ => Or.inl rfl

theorem spelled_digit {c digit : Char} (listed : digit ∈ digits)
    (spelled : c = digit ∨ c = digit.toUpper) :
    Pattern.digest.rest.has c = true ∧ c.toNat < 0x80 ∧ c.toLower = digit := by
  have each : digits.all (fun digit => [digit, digit.toUpper].all fun c =>
      Pattern.digest.rest.has c && c.toNat < 0x80 && c.toLower = digit) = true := by
    decide
  have fits := List.all_eq_true.1 (List.all_eq_true.1 each digit listed) c (by simpa using spelled)
  simpa [and_assoc] using fits

theorem lower_of_spelled {chars printed : List Char}
    (spelled : List.Forall₂ (fun c digit => c = digit ∨ c = digit.toUpper) chars printed)
    (listed : ∀ digit ∈ printed, digit ∈ digits) :
    (∀ c ∈ chars, Pattern.digest.rest.has c = true ∧ c.toNat < 0x80) ∧
      chars.map Char.toLower = printed := by
  induction spelled with
  | nil => exact ⟨by simp, rfl⟩
  | cons first _ ih =>
      obtain ⟨listedFirst, listedOthers⟩ := List.forall_mem_cons.1 listed
      obtain ⟨fits, ascii, lowered⟩ := spelled_digit listedFirst first
      obtain ⟨each, others⟩ := ih listedOthers
      exact ⟨List.forall_mem_cons.2 ⟨⟨fits, ascii⟩, each⟩, by rw [List.map_cons, lowered, others]⟩

variable {hash key : String}

theorem Spelling.lower_eq (spelled : Spelling hash (ofKey key)) : Text.lower hash = ofKey key := by
  obtain ⟨each, lowered⟩ := lower_of_spelled spelled fun _ => mem_digits_of_mem_hex
  rw [Text.lower, Text.lowerFrom_of_ascii fun c present => (each c present).2, lowered,
    String.ofList_toList]

theorem Spelling.accepted (spelled : Spelling hash (ofKey key)) :
    Pattern.digest.accepts hash = true := by
  obtain ⟨each, _⟩ := lower_of_spelled spelled fun _ => mem_digits_of_mem_hex
  have length : hash.toList.length = 40 := spelled.length_eq.trans (length_hex _)
  have fits : Pattern.digest.fits hash.toList = true := by
    have all : hash.toList.all Pattern.digest.rest.has = true :=
      List.all_eq_true.2 fun c present => (each c present).1
    show (hash.toList.all Pattern.digest.rest.has && decide (hash.toList.length = 40)) = true
    rw [all, length]
    rfl
  rw [Pattern.accepts, fits, Bool.true_or]

end Digest

/-! ## Methods that are kept -/

namespace AuthMethod

theorem mem_insertInto_self (method : AuthMethod) (methods : List AuthMethod) :
    method ∈ method.insertInto methods := by
  induction methods with
  | nil => exact List.mem_singleton.2 rfl
  | cons other rest ih =>
      rw [insertInto]
      split
      · exact List.mem_cons_self
      · split
        · exact List.mem_cons_self
        · exact List.mem_cons_of_mem other ih

theorem mem_insertInto_of_mem {method other : AuthMethod} (apart : other.level ≠ method.level)
    {methods : List AuthMethod} (present : method ∈ methods) :
    method ∈ other.insertInto methods := by
  induction methods with
  | nil => cases present
  | cons first rest ih =>
      rw [insertInto]
      split
      · exact List.mem_cons_of_mem other present
      · split
        · next same =>
            rcases List.mem_cons.1 present with rfl | later
            · exact absurd same apart
            · exact List.mem_cons_of_mem other later
        · rcases List.mem_cons.1 present with rfl | later
          · exact List.mem_cons_self
          · exact List.mem_cons_of_mem first (ih later)

end AuthMethod

/-- The last method for a level is the one in the table. -/
theorem AuthTable.mem_ofList_of_last {before after : List AuthMethod} {method : AuthMethod}
    (last : ∀ other ∈ after, other.level ≠ method.level) :
    method ∈ (ofList (before ++ method :: after)).methods := by
  have kept : ∀ table : AuthTable, method ∈ table.methods →
      method ∈ (after.foldl insert table).methods := by
    induction after with
    | nil => exact fun _ present => present
    | cons other rest ih =>
        obtain ⟨apart, others⟩ := List.forall_mem_cons.1 last
        exact fun table present =>
          ih others (table.insert other) (AuthMethod.mem_insertInto_of_mem apart present)
  rw [ofList, List.foldl_append, List.foldl_cons]
  exact kept _ (method.mem_insertInto_self _)

/-! ## Documents -/

theorem lookup_append_cons {front : List (String × Json)} {name : String}
    (once : name ∉ front.map Prod.fst) (value : Json) (back : List (String × Json)) :
    (front ++ (name, value) :: back).lookup name = some value := by
  have absent : front.lookup name = none := by
    rw [List.lookup_eq_none_iff]
    intro member present
    simpa using fun same : name = member.1 => once (same ▸ List.mem_map_of_mem present)
  rw [List.lookup_append, absent, Option.none_or, List.lookup_cons_self]

theorem lookup_append_cons_of_ne {name other : String} (apart : other ≠ name)
    (front : List (String × Json)) (value : Json) (back : List (String × Json)) :
    (front ++ (name, value) :: back).lookup other = (front ++ back).lookup other := by
  rw [List.lookup_append, List.lookup_append, List.lookup_cons, beq_false_of_ne apart]

/-- What stands around the hash of one access level in a document. Names are not repeated. -/
structure HashPlace where
  /-- The members of the document before the levels and after them. -/
  front : List (String × Json)
  back : List (String × Json)
  /-- The other levels, and the name of this one. -/
  before : List (String × Json)
  level : String
  after : List (String × Json)
  /-- The other members of the entry. -/
  ownFront : List (String × Json)
  ownBack : List (String × Json)
  authOnce : "auth" ∉ front.map Prod.fst
  levelsOnce : (before.map Prod.fst ++ level :: after.map Prod.fst).Nodup
  hashOnce : "hash" ∉ ownFront.map Prod.fst

namespace HashPlace

variable (place : HashPlace) (hash : String)

def method : Json :=
  .obj (place.ownFront ++ ("hash", .str hash) :: place.ownBack)

def levels : List (String × Json) :=
  place.before ++ (place.level, place.method hash) :: place.after

def document : Json :=
  .obj (place.front ++ ("auth", .obj (place.levels hash)) :: place.back)

/-- Where the schema would report the hash. -/
def path : List Schema.Step :=
  [.member "auth", .member place.level, .member "hash"]

/-- No later entry is for the same number. -/
def IsLast : Prop :=
  ∀ entry ∈ place.after, Text.integer? entry.1 ≠ Text.integer? place.level

theorem nodup_levels : ((place.levels hash).map Prod.fst).Nodup := by
  rw [levels, List.map_append, List.map_cons]
  exact place.levelsOnce

theorem given?_auth :
    (place.document hash).given? "auth" = some (.obj (place.levels hash)) := by
  have found := lookup_append_cons place.authOnce (.obj (place.levels hash)) place.back
  rw [Json.given?, document, Json.member?, Json.members?, Option.bind_some, found]

theorem entries_auth :
    Json.entries ((place.document hash).given? "auth") = .ok (place.levels hash) := by
  have some : (Json.obj (place.levels hash)).isSomething = true := by
    simp [Json.isSomething, levels]
  rw [given?_auth, Json.entries]
  simp only [some, if_true, Json.fields]
  rw [Json.distinctMembers_of_nodup (place.nodup_levels hash)]

open Schema in
/-- Nothing is wrong with a hash that fits its pattern, whatever else the document holds: a problem
at the hash would be one of the levels, of this entry, and of the hash itself. -/
theorem path_ne_of_accepts (fits : Pattern.digest.accepts hash = true) {problem : Problem}
    (found : problem ∈ Schema.description.problems (place.document hash)) :
    problem.path ≠ place.path := by
  intro there
  obtain ⟨levels, value, declared, present, inner, inLevels, inPath⟩ :=
    exists_below_record found there
  cases (lookup_append_cons place.authOnce _ _).symm.trans present
  cases (by simpa [Schema.description] using declared :
    levels = .map false Pattern.level (.named "authMethod" Schema.authMethod))
  obtain ⟨entry, listed, deeper, inMethod, ownPath⟩ := exists_below_map inLevels inPath
  have same : entry = place.method hash := by
    have twin := List.inj_on_of_nodup_map (place.nodup_levels hash) listed
      (List.mem_append_right _ List.mem_cons_self) rfl
    exact congrArg Prod.snd twin
  subst same
  rw [problems] at inMethod
  obtain ⟨schema, text, own, member, last, inText, _⟩ := exists_below_record inMethod ownPath
  cases (lookup_append_cons place.hashOnce _ _).symm.trans member
  cases (by simpa [Schema.authMethod] using own : schema = .text false (some Pattern.digest))
  have none : (Schema.text false (some Pattern.digest)).Accepts (.str hash) :=
    accepts_text_iff.2 ⟨hash, rfl, by simp, by simpa using fits⟩
  rw [Accepts] at none
  rw [none] at inText
  cases inText

/-! ## Reading -/

theorem member?_type : (place.method hash).member? "type" =
    (place.ownFront ++ place.ownBack).lookup "type" := by
  rw [method, Json.member?, Json.members?, Option.bind_some,
    lookup_append_cons_of_ne (by decide)]

/-- What the entry is read as: the type as it is given, and the hash in lower case. -/
theorem ofJson_method :
    AuthMethod.ofJson place.level (place.method hash) =
      match Text.integer? place.level, (place.ownFront ++ place.ownBack).lookup "type" with
      | none, _ => breaking (.malformedInteger place.level)
      | some _, none => breaking (.missingMember "type")
      | some number, some kind => .ok ⟨number, kind, Text.lower hash⟩ := by
  have hashed := lookup_append_cons place.hashOnce (.str hash) place.ownBack
  have typed := lookup_append_cons_of_ne (by decide : "type" ≠ "hash") place.ownFront (.str hash)
    place.ownBack
  cases read : Text.integer? place.level with
  | none => simp only [AuthMethod.ofJson, read]
  | some number =>
      cases kind : (place.ownFront ++ place.ownBack).lookup "type" with
      | none =>
          simp only [AuthMethod.ofJson, read, method, Json.required, typed, kind]
          rfl
      | some kind =>
          simp only [AuthMethod.ofJson, read, method, Json.required, typed, kind, hashed]
          rfl

theorem ofJson_auth :
    AuthTable.ofJson ((place.document hash).given? "auth") = do
      let before ← place.before.mapM fun entry => AuthMethod.ofJson entry.1 entry.2
      let method ← AuthMethod.ofJson place.level (place.method hash)
      let after ← place.after.mapM fun entry => AuthMethod.ofJson entry.1 entry.2
      return AuthTable.ofList (before ++ method :: after) := by
  rw [AuthTable.ofJson, entries_auth]
  show (place.levels hash).mapM (fun entry => AuthMethod.ofJson entry.1 entry.2) >>=
    (fun methods => pure (AuthTable.ofList methods)) = _
  rw [levels, List.mapM_append, List.mapM_cons]
  simp only [bind_assoc, pure_bind]

variable {hash} {key : String} (spelled : Digest.Spelling hash (Digest.ofKey key))
include spelled

theorem ofJson_method_of_spelled {number : Int} {kind : Json}
    (read : Text.integer? place.level = some number)
    (typed : (place.method hash).member? "type" = some kind) :
    AuthMethod.ofJson place.level (place.method hash) =
      .ok ⟨number, kind, Digest.ofKey key⟩ := by
  rw [member?_type] at typed
  rw [ofJson_method, read, typed, spelled.lower_eq]

/-- The spelling of a hash has no part in what is read from a document. -/
theorem ofJson_document (source : String) :
    Spec.ofJson (place.document hash) source =
      Spec.ofJson (place.document (Digest.ofKey key)) source := by
  refine Spec.ofJson_congr source (fun name apart => ?_) ?_
  · rw [lookup_append_cons_of_ne apart, lookup_append_cons_of_ne apart]
  · show AuthTable.ofJson ((place.document hash).given? "auth") =
      AuthTable.ofJson ((place.document (Digest.ofKey key)).given? "auth")
    rw [ofJson_auth, ofJson_auth, ofJson_method, ofJson_method, spelled.lower_eq,
      (Digest.Spelling.refl _).lower_eq]

/-- The printed digest is what is kept for the level, unless a later entry replaces it. -/
theorem mem_methods_of_read {source : String} {spec : Spec}
    (read : Spec.ofJson (place.document hash) source = .ok spec) (last : place.IsLast) :
    ∃ number kind, Text.integer? place.level = some number ∧
      (place.method hash).member? "type" = some kind ∧
      ⟨number, kind, Digest.ofKey key⟩ ∈ spec.auth.methods := by
  have table := (Spec.exists_checked_of_read read).1
  rw [ofJson_auth] at table
  obtain ⟨before, _, table⟩ := exists_of_bind_eq_ok table
  obtain ⟨method, own, table⟩ := exists_of_bind_eq_ok table
  obtain ⟨after, later, table⟩ := exists_of_bind_eq_ok table
  rw [ofJson_method, spelled.lower_eq] at own
  split at own
  · cases own
  · cases own
  · next number kind numbered typed =>
      cases own
      refine ⟨number, kind, numbered, place.member?_type hash ▸ typed, ?_⟩
      have each : ∀ entry ∈ place.after, Ends (fun other => other.level ≠ number) (fun _ => True)
          (AuthMethod.ofJson entry.1 entry.2) := by
        intro entry present
        refine (integer?_of_ofJson entry.1 entry.2).mono (fun other same => ?_) fun _ _ => trivial
        intro equal
        exact last entry present (same.symm.trans (equal ▸ numbered.symm))
      rw [← Except.ok.inj table]
      exact AuthTable.mem_ofList_of_last ((Ends.mapM each).of_eq_ok later)

end HashPlace

/-! ## Routines -/

namespace Bash

/-- The texts that a routine compares the digest of a key with. -/
def comparedDigests (routine : Routine) : List String :=
  Text.foundBetween "if [ \"$hashed_key\" != \"" "\" ];" routine.code

theorem comparedDigests_authLines {level digest : String} (numeral : NumeralText level)
    (whole : '\n' ∉ digest.toList) (name description : String) :
    comparedDigests (.ofLines name description (authLines level digest)) = [digest] := by
  have levelWhole : '\n' ∉ level.toList := numeral.apart (by simp [IsNumeral])
  have message : '\n' ∉ ("Authenticated to level " ++ level ++ " access.").toList := by
    simp [levelWhole]
  have rejected : rejectWhen s!"[ \"$hashed_key\" != \"{digest}\" ]" "Invalid key." =
      ("if [ \"$hashed_key\" != \"" ++ digest ++ "\" ];") ::
        ("then" :: indent [error "Invalid key.", "return 1"] ++ ["fi"]) := by
    refine congrArg (· :: _) (String.toList_injective ?_)
    simp [toString]
  obtain ⟨front, lines, before⟩ : ∃ front, authLines level digest = front ++
        ("if [ \"$hashed_key\" != \"" ++ digest ++ "\" ];") ::
        (("then" :: indent [error "Invalid key.", "return 1"] ++ ["fi"]) ++
          ["AUTH_LEVEL=" ++ level, success s!"Authenticated to level {level} access.",
            "return 0"]) ∧
      front.flatMap (Text.foundBetween "if [ \"$hashed_key\" != \"" "\" ];") = [] := by
    rw [authLines, rejected, List.append_assoc]
    exact ⟨_, rfl, by decide +kernel⟩
  rw [comparedDigests, Routine.ofLines, lines]
  refine Text.foundBetween_eq_singleton [] before (by simp [whole]) (by decide +kernel) rfl ?_
  have fixed : ("then" :: indent [error "Invalid key.", "return 1"] ++ ["fi"]).flatMap
      (Text.foundBetween "if [ \"$hashed_key\" != \"" "\" ];") = [] := by
    decide +kernel
  rw [List.flatMap_append, fixed, List.nil_append]
  refine Text.foundBetween_eq_nil ?_
  simp [success, green, reset, Placeholder.braced, toString, levelWhole,
    newline_not_mem_doubleQuote message]

end Bash

namespace Batch

/-- The texts that a routine compares the digest of a key with. -/
def comparedDigests (routine : Routine) : List String :=
  Text.foundBetween "if /i NOT \"!hashed_key!\" == \"" "\" (" routine.code

theorem plain_hiddenPrompt :
    ∀ line ∈ hiddenPrompt "Key" "key",
      '\n' ∉ line.toList ∧ ¬ "if /i NOT \"!hashed_key!\" == \"".toList <+: line.toList := by
  have label : Text.replaceAll "'" "''" "Key" = "Key" := by decide +kernel
  unfold hiddenPrompt
  rw [label]
  simp only [toString, String.toList_append, List.forall_mem_cons]
  repeat rw [String.toList_ofList]
  decide

theorem comparedDigests_authLines {level digest : String} (numeral : NumeralText level)
    (whole : '\n' ∉ digest.toList) (name description : String) :
    comparedDigests (.ofLines name description (authLines level digest)) = [digest] := by
  have levelWhole : '\n' ∉ level.toList := numeral.apart (by simp [IsNumeral])
  obtain ⟨front, lines, before⟩ : ∃ front, authLines level digest = front ++
        ("if /i NOT \"!hashed_key!\" == \"" ++ digest ++ ("\" " ++ authLines.refusal)) ::
        ["set \"AUTH_LEVEL=" ++ level ++ "\"",
         "echo !GREEN!Authenticated to level " ++ level ++ " access.!RESET!", "exit /b 0"] ∧
      front.flatMap (Text.foundBetween "if /i NOT \"!hashed_key!\" == \"" "\" (") = [] := by
    rw [← String.append_assoc]
    refine ⟨_, (List.append_assoc _ [_, _, _, _, _] _).symm, ?_⟩
    have found : (["where certutil >nul 2>nul"] ++
        (Statement.failIf .failed "certutil was not found.").lines).flatMap
          (Text.foundBetween "if /i NOT \"!hashed_key!\" == \"" "\" (") = [] := by
      decide +kernel
    rw [List.flatMap_append, List.flatMap_append, found,
      Text.foundBetween_eq_nil plain_hiddenPrompt, Text.foundBetween_eq_nil]
    · rfl
    · simp only [toString, keyFile, String.toList_append, List.forall_mem_cons]
      repeat rw [String.toList_ofList]
      decide
  rw [comparedDigests, Routine.ofLines, lines]
  refine Text.foundBetween_eq_singleton (Text.splitAt '\n' authLines.refusal).tail before
    (by simp [whole]) (by decide +kernel) (by decide +kernel) (Text.foundBetween_eq_nil ?_)
  simp [levelWhole]

end Batch

namespace Digest

/-- A printed digest can be used as it is. It is printed for every key without half of a pair, and
has forty digits in lower case. A document may spell any of its letters in upper case: the schema
has no problem with the hash, whatever else is there, and the document is read as if it held the
printed digest. That is what the spec then holds for the level, unless a later entry is for the same
one, and what both scripts compare with. -/
theorem printed_digest_usable (key : List CodePoint) :
    (isEncodable key = false → hashKey key = breaking .notEncodable) ∧
    (isEncodable key = true → ∃ digest, hashKey key = .ok digest ∧
      digest.toList.length = 40 ∧ (∀ c ∈ digest.toList, c ∈ digits) ∧
      (∀ hash, Spelling hash digest → ∀ place : HashPlace,
        Pattern.digest.accepts hash = true ∧
        (∀ problem ∈ Schema.description.problems (place.document hash),
          problem.path ≠ place.path) ∧
        (∀ number kind, Text.integer? place.level = some number →
          (place.method hash).member? "type" = some kind →
          AuthMethod.ofJson place.level (place.method hash) = .ok ⟨number, kind, digest⟩) ∧
        ∀ source,
          Spec.ofJson (place.document hash) source =
            Spec.ofJson (place.document digest) source ∧
          ∀ spec, Spec.ofJson (place.document hash) source = .ok spec → place.IsLast →
            ∃ number kind, Text.integer? place.level = some number ∧
              (place.method hash).member? "type" = some kind ∧
              ⟨number, kind, digest⟩ ∈ spec.auth.methods) ∧
      ∀ number, ∃ bash batch,
        Bash.authRoutine ⟨number, .str "hash", digest⟩ = .ok bash ∧
        Bash.comparedDigests bash = [digest] ∧
        Batch.authRoutine ⟨number, .str "hash", digest⟩ = .ok batch ∧
        Batch.comparedDigests batch = [digest]) := by
  refine ⟨fun halved => by rw [hashKey, if_neg (by simp [halved])], fun encodable => ?_⟩
  obtain ⟨text, printed⟩ : ∃ text, hashKey key = .ok (ofKey text) := ⟨_, if_pos encodable⟩
  have listed : ∀ c ∈ (ofKey text).toList, c ∈ digits := fun _ => mem_digits_of_mem_hex
  have whole : '\n' ∉ (ofKey text).toList := fun present => absurd (listed _ present) (by decide)
  refine ⟨ofKey text, printed, length_hex _, listed, fun hash spelled place => ?_,
    fun number => ?_⟩
  · refine ⟨spelled.accepted, fun problem => place.path_ne_of_accepts hash spelled.accepted,
      fun number kind => place.ofJson_method_of_spelled spelled,
      fun source => ⟨place.ofJson_document spelled source, fun spec => ?_⟩⟩
    exact place.mem_methods_of_read spelled
  · have numeral := numeral_toString_int number
    exact ⟨_, _, rfl, Bash.comparedDigests_authLines numeral whole _ _, rfl,
      Batch.comparedDigests_authLines numeral whole _ _⟩

/-- The key that a byte above all characters of ASCII is passed as. -/
theorem half_pair_not_hashed : hashKey [0xdcff] = breaking .notEncodable :=
  rfl

end Digest

/-- A document with two levels, around the hash of the higher one. -/
def leveledPlace : HashPlace where
  front := [("title", .str "Demo"), ("uri", .str "demo.dev"), ("mainMenu", .str "main"),
    ("menus", .obj [("main", .obj [("commands", .obj [("go", .obj [
      ("description", .str "Go."), ("access", .int 2)])])])])]
  back := []
  before := []
  level := "10"
  after := [("2", leveledMethod "356a192b7913b04c54574d18c28d46e6395428ab")]
  ownFront := [("type", .str "hash")]
  ownBack := []
  authOnce := by decide
  levelsOnce := by decide
  hashOnce := by decide

theorem Digest.mixed_spelling_usable :
    hashKey ("abc".toList.map codePoint) = .ok "a9993e364706816aba3e25717850c26c9cd0d89d" ∧
    Schema.description.violations
      (leveledPlace.document "A9993E364706816Aba3e25717850c26c9cd0d89D") = [] ∧
    ∃ spec, Spec.ofJson (leveledPlace.document "A9993E364706816Aba3e25717850c26c9cd0d89D")
        "cli.json" = .ok spec ∧
      ⟨10, .str "hash", "a9993e364706816aba3e25717850c26c9cd0d89d"⟩ ∈ spec.auth.methods := by
  have printed : ofKey "abc" = "a9993e364706816aba3e25717850c26c9cd0d89d" := by decide +kernel
  have hashed : hashKey ("abc".toList.map codePoint) =
      .ok "a9993e364706816aba3e25717850c26c9cd0d89d" := congrArg Except.ok printed
  refine ⟨hashed, by decide +kernel, _, rfl, ?_⟩
  obtain ⟨digest, same, _, _, usable, _⟩ :=
    (printed_digest_usable ("abc".toList.map codePoint)).2 (by decide)
  cases hashed.symm.trans same
  have spelled : Spelling "A9993E364706816Aba3e25717850c26c9cd0d89D"
      "a9993e364706816aba3e25717850c26c9cd0d89d" := by
    unfold Spelling
    decide +kernel
  obtain ⟨_, _, _, read⟩ := usable _ spelled leveledPlace
  have last : leveledPlace.IsLast := by
    unfold HashPlace.IsLast
    decide +kernel
  obtain ⟨number, kind, numbered, typed, kept⟩ := (read "cli.json").2 _ rfl last
  cases numbered
  cases typed
  exact kept

end ShellMenu
