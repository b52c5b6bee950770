import ShellMenu.Artifact
import ShellMenu.Proofs.Json.Indented
import ShellMenu.Proofs.Schema.WholeNames
import ShellMenu.Proofs.Spec.Demo

/-
  The order of the access levels in a document. A table of levels is filled by one insertion for
  each entry, and insertions for different levels can change places. So documents that list the
  same levels in different orders give one spec, and with it one build.
-/

namespace ShellMenu

/-! ## Tables of levels -/

theorem AuthMethod.insertInto_comm {first second : AuthMethod} (apart : first.level ≠ second.level)
    (methods : List AuthMethod) :
    first.insertInto (second.insertInto methods) =
      second.insertInto (first.insertInto methods) := by
  induction methods with
  | nil => grind [AuthMethod.insertInto]
  | cons other rest ih =>
      grind [AuthMethod.insertInto]

namespace AuthTable

theorem insert_comm {first second : AuthMethod} (apart : first.level ≠ second.level)
    (table : AuthTable) :
    (table.insert first).insert second = (table.insert second).insert first := by
  simp only [insert, AuthTable.mk.injEq]
  exact AuthMethod.insertInto_comm apart.symm table.methods

theorem ofList_eq_of_perm {left right : List AuthMethod} (same : left.Perm right)
    (distinct : (left.map AuthMethod.level).Nodup) : ofList left = ofList right := by
  refine same.foldl_eq' (fun first inFirst second inSecond table => ?_) _
  by_cases equal : first.level = second.level
  · rw [List.inj_on_of_nodup_map distinct inFirst inSecond equal]
  · exact insert_comm equal table

theorem ascending_levels (table : AuthTable) : table.levels.Pairwise (· < ·) :=
  List.pairwise_map.2 table.ascending

end AuthTable

/-! ## Entries in another order -/

theorem exists_mapM_of_perm {α β : Type} {step : α → Result β} {xs moved : List α} {ys : List β}
    (same : xs.Perm moved) (done : xs.mapM step = .ok ys) :
    ∃ others, moved.mapM step = .ok others ∧ ys.Perm others := by
  obtain ⟨others, each, perm⟩ := List.perm_comp_forall₂ same.symm (forall₂_of_mapM_eq_ok done)
  exact ⟨others, mapM_eq_ok_of_forall₂ each, perm.symm⟩

/-- The number that the digits of a key stand for. -/
def Text.levelValue (key : String) : Nat :=
  Nat.ofDigitChars 10 (chomp key).toList 0

theorem Text.eq_levelValue_of_integer? {key : String} {level : Int}
    (named : Pattern.level.accepts key = true) (read : integer? key = some level) :
    level = levelValue key := by
  rw [integer?_eq_natural?_chomp named] at read
  obtain ⟨value, digits, rfl⟩ := Option.map_eq_some_iff.1 read
  have numeral : isLevel (String.ofList (chomp key).toList) = true := by
    simpa using (level_whole named).chomped
  exact congrArg Int.ofNat (natural?_eq_ofDigitChars numeral digits)

/-- The same members, those of one of them in another order. -/
structure Json.ReorderedAt (name : String) (left right : Json) : Prop where
  others : ∀ other, other ≠ name → left.member? other = right.member? other
  inside : (left.membersAt name).Perm (right.membersAt name)

section Tables

variable {payload : Json} (accepted : Schema.description.Accepts payload)
  (distinct : ((payload.membersAt "auth").map fun entry => Text.levelValue entry.1).Nodup)
include accepted distinct

open Schema in
theorem entries_auth :
    Json.entries (payload.given? "auth") = .ok (payload.membersAt "auth") := by
  have keys : ((payload.membersAt "auth").map Prod.fst).Nodup := by
    refine List.Nodup.of_map Text.levelValue ?_
    rwa [List.map_map]
  clear distinct
  unfold Schema.description at accepted
  unfold Json.membersAt Json.given? at *
  cases found : payload.member? "auth" with
  | none => rfl
  | some value =>
      have fits : (Schema.map false Pattern.level (.named "authMethod" Schema.authMethod)).Accepts
          value := accepted.member (by simp) found
      obtain ⟨members, rfl, _, _⟩ := accepts_map_iff.1 fits
      rw [found] at keys
      cases members with
      | nil => rfl
      | cons first rest => exact congrArg Except.ok (Json.distinctMembers_of_nodup keys)

theorem AuthTable.ofJson_auth :
    AuthTable.ofJson (payload.given? "auth") =
      ((payload.membersAt "auth").mapM fun entry => AuthMethod.ofJson entry.1 entry.2) >>=
        fun methods => .ok (AuthTable.ofList methods) := by
  rw [AuthTable.ofJson, entries_auth accepted distinct]
  rfl

omit distinct in
theorem levels_of_mapM {methods : List AuthMethod}
    (made : ((payload.membersAt "auth").mapM fun entry => AuthMethod.ofJson entry.1 entry.2) =
      .ok methods) :
    methods.map AuthMethod.level =
      (payload.membersAt "auth").map fun entry => (Text.levelValue entry.1 : Int) := by
  have each : ∀ entry ∈ payload.membersAt "auth",
      Ends (fun method => method.level = (Text.levelValue entry.1 : Int)) (fun _ => True)
        (AuthMethod.ofJson entry.1 entry.2) := by
    intro entry present
    refine (integer?_of_ofJson entry.1 entry.2).mono (fun method read => ?_) fun _ _ => trivial
    exact Text.eq_levelValue_of_integer? (authEntry_accepts accepted present).1 read.symm
  exact (Ends.mapM_view each).of_eq_ok made

theorem nodup_levels_of_mapM {methods : List AuthMethod}
    (made : ((payload.membersAt "auth").mapM fun entry => AuthMethod.ofJson entry.1 entry.2) =
      .ok methods) : (methods.map AuthMethod.level).Nodup := by
  have cast := distinct.map (f := Int.ofNat) fun _ _ same => Int.ofNat_inj.1 same
  rw [List.map_map] at cast
  exact levels_of_mapM accepted made ▸ cast

/-- A spec has the levels that the keys of its document stand for. -/
theorem Spec.levels_perm {source : String} {spec : Spec}
    (read : Spec.ofJson payload source = .ok spec) :
    spec.levels.Perm
      ((payload.membersAt "auth").map fun entry => (Text.levelValue entry.1 : Int)) := by
  obtain ⟨entries, methods, listed, made, table⟩ := exists_methods_of_read read
  rw [entries_auth accepted distinct] at listed
  cases listed
  rw [Spec.levels, table, ← levels_of_mapM accepted made]
  exact AuthTable.levels_ofList_perm (nodup_levels_of_mapM accepted distinct made)

end Tables

theorem AuthTable.ofJson_reordered {left right : Json}
    (leftAccepted : Schema.description.Accepts left)
    (rightAccepted : Schema.description.Accepts right) (same : left.ReorderedAt "auth" right)
    (distinct : ((left.membersAt "auth").map fun entry => Text.levelValue entry.1).Nodup) :
    AuthTable.ofJson (left.given? "auth") = AuthTable.ofJson (right.given? "auth") ∨
    ∃ leftError rightError, AuthTable.ofJson (left.given? "auth") = .error leftError ∧
      AuthTable.ofJson (right.given? "auth") = .error rightError := by
  rw [AuthTable.ofJson_auth leftAccepted distinct,
    AuthTable.ofJson_auth rightAccepted ((same.inside.map _).nodup_iff.1 distinct)]
  cases leftMade : (left.membersAt "auth").mapM fun entry => AuthMethod.ofJson entry.1 entry.2 with
  | ok methods =>
      obtain ⟨others, rightMade, perm⟩ := exists_mapM_of_perm same.inside leftMade
      have apart := nodup_levels_of_mapM leftAccepted distinct leftMade
      rw [rightMade]
      exact Or.inl (congrArg Except.ok (ofList_eq_of_perm perm apart))
  | error error =>
      cases rightMade : (right.membersAt "auth").mapM fun entry =>
          AuthMethod.ofJson entry.1 entry.2 with
      | ok methods =>
          obtain ⟨others, made, _⟩ := exists_mapM_of_perm same.inside.symm rightMade
          cases leftMade.symm.trans made
      | error other => exact Or.inr ⟨error, other, rfl, rfl⟩

/-! ## Specs -/

open Schema in
theorem exists_members_of_accepts {payload : Json} (accepted : Schema.description.Accepts payload) :
    ∃ members, payload = .obj members := by
  unfold Schema.description at accepted
  obtain ⟨members, object, _⟩ := accepts_record_iff.1 accepted
  exact ⟨members, object⟩

/-- A spec is read from the members of a document by their names. -/
theorem Spec.ofJson_congr {left right : List (String × Json)} (source : String)
    (others : ∀ name, name ≠ "auth" → left.lookup name = right.lookup name)
    (auth : AuthTable.ofJson ((Json.obj left).given? "auth") =
      AuthTable.ofJson ((Json.obj right).given? "auth")) :
    Spec.ofJson (.obj left) source = Spec.ofJson (.obj right) source := by
  have required : ∀ name, name ≠ "auth" →
      (Json.obj left).required name = (Json.obj right).required name := by
    intro name apart
    simp only [Json.required, others name apart]
  have described :
      (Json.obj left).given? "description" = (Json.obj right).given? "description" := by
    simp only [Json.given?, Json.member?, Json.members?, Option.bind_some,
      others "description" (by decide)]
  unfold Spec.ofJson
  rw [auth, required "title" (by decide), required "uri" (by decide),
    required "mainMenu" (by decide), required "menus" (by decide), described]
  rfl

open Schema in
/-- A table that cannot be read is one with a level that is too long, and ends the reading. -/
theorem Spec.ofJson_of_unread_auth {payload : Json} (source : String) {error : Error}
    (accepted : Schema.description.Accepts payload)
    (unread : AuthTable.ofJson (payload.given? "auth") = .error error) :
    Spec.ofJson payload source = .error error ∧ LongLevel payload.levelKeys error := by
  obtain ⟨members, rfl⟩ := exists_members_of_accepts accepted
  unfold Schema.description at accepted
  have levels : ∀ found, (Json.obj members).given? "auth" = some found →
      (Schema.map false Pattern.level (.named "authMethod" Schema.authMethod)).Accepts found :=
    fun found given => accepted.given (by simp) given
  have ends := AuthTable.ofJson_ends levels
  rw [unread] at ends
  refine ⟨?_, ends⟩
  unfold Spec.ofJson
  rw [unread]
  rfl

theorem Spec.ofJson_reordered {left right : Json} (source : String)
    (leftFits : Schema.description.Accepts left) (rightFits : Schema.description.Accepts right)
    (same : left.ReorderedAt "auth" right)
    (distinct : ((left.membersAt "auth").map fun entry => Text.levelValue entry.1).Nodup) :
    Spec.ofJson left source = Spec.ofJson right source ∨
    ∃ leftError rightError,
      (Spec.ofJson left source = .error leftError ∧ LongLevel left.levelKeys leftError) ∧
      Spec.ofJson right source = .error rightError ∧ LongLevel right.levelKeys rightError := by
  rcases AuthTable.ofJson_reordered leftFits rightFits same distinct with
    table | ⟨leftError, rightError, leftUnread, rightUnread⟩
  · obtain ⟨leftMembers, rfl⟩ := exists_members_of_accepts leftFits
    obtain ⟨rightMembers, rfl⟩ := exists_members_of_accepts rightFits
    exact Or.inl (Spec.ofJson_congr source same.others table)
  · exact Or.inr ⟨leftError, rightError, Spec.ofJson_of_unread_auth source leftFits leftUnread,
      Spec.ofJson_of_unread_auth source rightFits rightUnread⟩

/-- The order of the levels in a document has no part in what is read from it and built. Where a
level has too many digits nothing is read in either order, but the two errors may be about two
levels. -/
theorem level_order_irrelevant (left right : Json) (source : String)
    (leftAccepted : Schema.description.violations left = [])
    (rightAccepted : Schema.description.violations right = [])
    (same : left.ReorderedAt "auth" right)
    (distinct : ((left.membersAt "auth").map fun entry => Text.levelValue entry.1).Nodup) :
    ((∀ key ∈ left.levelKeys, key.length ≤ Text.mostDigits) →
      Spec.ofJson left source = Spec.ofJson right source) ∧
    (∀ spec, Spec.ofJson left source = .ok spec →
      Spec.ofJson right source = .ok spec ∧ spec.levels.Pairwise (· < ·) ∧
        spec.levels.Perm
          ((left.membersAt "auth").map fun entry => (Text.levelValue entry.1 : Int))) ∧
    (∀ error, Spec.ofJson left source = .error error →
      ∃ other, Spec.ofJson right source = .error other ∧
        (other = error ∨ LongLevel left.levelKeys error ∧ LongLevel right.levelKeys other)) ∧
    ∀ bash batch renderer,
      (Spec.ofJson left source).toOption.map (fun spec =>
          (Context.scripts ⟨spec, bash, batch⟩ renderer,
            Context.build ⟨spec, bash, batch⟩ renderer)) =
        (Spec.ofJson right source).toOption.map fun spec =>
          (Context.scripts ⟨spec, bash, batch⟩ renderer,
            Context.build ⟨spec, bash, batch⟩ renderer) := by
  have leftFits := Schema.violations_eq_nil_iff.1 leftAccepted
  have rightFits := Schema.violations_eq_nil_iff.1 rightAccepted
  rcases Spec.ofJson_reordered source leftFits rightFits same distinct with
    equal | ⟨leftError, rightError, ⟨leftFailed, leftLong⟩, rightFailed, rightLong⟩
  · refine ⟨fun _ => equal, fun spec read => ⟨equal ▸ read, spec.auth.ascending_levels, ?_⟩,
      fun error failed => ⟨error, equal ▸ failed, Or.inl rfl⟩, fun bash batch renderer => ?_⟩
    · exact Spec.levels_perm leftFits distinct read
    · rw [equal]
  · rw [leftFailed, rightFailed]
    refine ⟨fun short => ?_, ?_, ?_, fun bash batch renderer => rfl⟩
    · obtain ⟨key, listed, long, _⟩ := leftLong
      exact absurd (short key listed) (Nat.not_le.2 long)
    · intro spec read
      cases read
    · intro error failed
      cases failed
      exact ⟨rightError, rfl, Or.inr ⟨leftLong, rightLong⟩⟩

/-- Two levels, of which the lower one has the key that comes later in the order of texts. -/
def leveledDocument (auth : List (String × Json)) : Json :=
  demoDocument [("go", .obj [("description", .str "Go."), ("access", .int 2),
    ("bashCommand", .str "echo"), ("batchCommand", .str "echo")])] [("auth", .obj auth)]

def leveledMethod (digest : String) : Json :=
  .obj [("type", .str "hash"), ("hash", .str digest)]

def higherFirst : List (String × Json) := [
  ("10", leveledMethod emptyDigest),
  ("2", leveledMethod "356a192b7913b04c54574d18c28d46e6395428ab")]

theorem leveledDocument_order_irrelevant :
    Schema.description.violations (leveledDocument higherFirst) = [] ∧
    Schema.description.violations (leveledDocument higherFirst.reverse) = [] ∧
    ∃ spec, Spec.ofJson (leveledDocument higherFirst) "cli.json" = .ok spec ∧
      Spec.ofJson (leveledDocument higherFirst.reverse) "cli.json" = .ok spec ∧
      spec.levels = [2, 10] := by
  have leftAccepted : Schema.description.violations (leveledDocument higherFirst) = [] := by
    decide +kernel
  have rightAccepted :
      Schema.description.violations (leveledDocument higherFirst.reverse) = [] := by
    decide +kernel
  have others : ∀ other, other ≠ "auth" → (leveledDocument higherFirst).member? other =
      (leveledDocument higherFirst.reverse).member? other := by
    intro other apart
    have unlike : (other == "auth") = false := beq_false_of_ne apart
    simp [leveledDocument, demoDocument, demoMenuDocument, Json.member?, Json.members?,
      List.lookup_cons, unlike]
  have same : (leveledDocument higherFirst).ReorderedAt "auth"
      (leveledDocument higherFirst.reverse) := ⟨others, (List.reverse_perm higherFirst).symm⟩
  obtain ⟨_, found, _, _⟩ := level_order_irrelevant _ _ "cli.json" leftAccepted rightAccepted same
    (by decide +kernel)
  exact ⟨leftAccepted, rightAccepted, _, rfl, (found _ rfl).1, rfl⟩

/-! ## Keys that are too long to be read -/

/-- So many ones. -/
def onesKey (digits : Nat) : String :=
  String.ofList (List.replicate digits '1')

theorem accepts_onesKey (more : Nat) : Pattern.level.accepts (onesKey (more + 1)) = true := by
  simp [Pattern.accepts, Pattern.fits, Pattern.fitsRest, Pattern.level, CharClass.has,
    ClassMember.has, Count.allows, onesKey, List.replicate_succ]

theorem integer?_onesKey {more : Nat} (long : Text.mostDigits ≤ more) :
    Text.integer? (onesKey (more + 1)) = none := by
  have chars : (onesKey (more + 1)).toList = '1' :: List.replicate more '1' ++ [] := by
    simp [onesKey, List.replicate_succ]
  have digit : ∀ c ∈ '1' :: List.replicate more '1', Text.IsDigit c := by
    simp [Text.IsDigit]
  rw [Text.integer?_eq_natural? chars (Or.inl rfl) digit, Text.natural?, if_pos]
  · rfl
  · simp [List.countP_replicate]
    omega

theorem levelValue_onesKey (digits : Nat) :
    Text.levelValue (onesKey digits) < Text.levelValue (onesKey (digits + 1)) := by
  have chars (digits : Nat) : (Text.chomp (onesKey digits)).toList = List.replicate digits '1' := by
    rw [Text.chomp_of_not_mem (by simp [onesKey]), onesKey, String.toList_ofList]
  rw [Text.levelValue, Text.levelValue, chars, chars, List.replicate_succ', Nat.ofDigitChars,
    Nat.ofDigitChars, List.foldl_append]
  simp only [List.foldl_cons, List.foldl_nil]
  have one : '1'.toNat - '0'.toNat = 1 := rfl
  omega

def keyedDocument (keys : List String) : Json :=
  demoDocument [("go", .obj [("description", .str "Go.")])] [demoAuth keys]

open Schema in
theorem accepts_keyedDocument {keys : List String}
    (levels : ∀ key ∈ keys, Pattern.level.accepts key = true) :
    Schema.description.Accepts (keyedDocument keys) := by
  have method : Schema.authMethod.Accepts
      (.obj [("type", .str "hash"), ("hash", .str emptyDigest)]) := by
    unfold Schema.Accepts
    decide +kernel
  have plain : Schema.description.Accepts
      (demoDocument [("go", .obj [("description", .str "Go.")])] []) := by
    unfold Schema.Accepts
    decide +kernel
  have auth : (Schema.map false Pattern.level (.named "authMethod" Schema.authMethod)).Accepts
      (demoAuth keys).2 := by
    refine accepts_map_iff.2 ⟨_, rfl, by simp, fun entry present => ?_⟩
    obtain ⟨key, listed, rfl⟩ := List.mem_map.1 present
    exact ⟨levels key listed, accepts_named_iff.2 method⟩
  unfold Schema.description at plain ⊢
  obtain ⟨members, same, named, present, fits⟩ := accepts_record_iff.1 plain
  cases same
  refine accepts_record_iff.2 ⟨_, rfl, fun member placed => ?_, fun name needed => ?_,
    fun field declared found given => ?_⟩
  · rcases List.mem_append.1 placed with earlier | last
    · exact named member (List.mem_append_left _ earlier)
    · cases List.mem_singleton.1 last
      simp [demoAuth]
  · obtain ⟨found, given⟩ := present name needed
    rw [List.append_nil] at given
    exact ⟨found, by rw [List.lookup_append, given]; rfl⟩
  · rw [List.lookup_append, Option.or_eq_some_iff] at given
    rcases given with earlier | ⟨_, last⟩
    · exact fits field declared found (by rwa [List.append_nil])
    · obtain ⟨name, schema⟩ := field
      have same : name = "auth" ∧ (demoAuth keys).2 = found := by
        rw [List.lookup_cons] at last
        split at last
        · next same => exact ⟨eq_of_beq same, Option.some.inj last⟩
        · cases last
      obtain ⟨rfl, rfl⟩ := same
      have only : schema = .map false Pattern.level (.named "authMethod" Schema.authMethod) := by
        simpa using declared
      exact only ▸ auth

/-- The first key that is too long is the one that is reported. -/
theorem ofJson_keyedDocument {more : Nat} (long : Text.mostDigits ≤ more) {others : List String}
    (levels : ∀ key ∈ others, Pattern.level.accepts key = true)
    (distinct : ((onesKey (more + 1) :: others).map Text.levelValue).Nodup) (source : String) :
    Spec.ofJson (keyedDocument (onesKey (more + 1) :: others)) source =
      breaking (.malformedInteger (onesKey (more + 1))) := by
  have accepted := accepts_keyedDocument
    (List.forall_mem_cons.2 ⟨accepts_onesKey more, levels⟩)
  have entries : (keyedDocument (onesKey (more + 1) :: others)).membersAt "auth" =
      (onesKey (more + 1) :: others).map fun key =>
        (key, .obj [("type", .str "hash"), ("hash", .str emptyDigest)]) := rfl
  refine (Spec.ofJson_of_unread_auth source accepted ?_).1
  rw [AuthTable.ofJson_auth accepted (by rwa [entries, List.map_map]), entries, List.map_cons,
    List.mapM_cons, AuthMethod.ofJson, integer?_onesKey long]
  rfl

/-- Two keys that no integer is read from: which of them is reported depends on their order. -/
theorem long_levels_order_reported :
    let shorter := onesKey 4301
    let longer := onesKey 4302
    Schema.description.violations (keyedDocument [shorter, longer]) = [] ∧
    Schema.description.violations (keyedDocument [longer, shorter]) = [] ∧
    (keyedDocument [shorter, longer]).ReorderedAt "auth" (keyedDocument [longer, shorter]) ∧
    Text.levelValue shorter ≠ Text.levelValue longer ∧
    Spec.ofJson (keyedDocument [shorter, longer]) "cli.json" =
      breaking (.malformedInteger shorter) ∧
    Spec.ofJson (keyedDocument [longer, shorter]) "cli.json" =
      breaking (.malformedInteger longer) ∧
    shorter ≠ longer := by
  intro shorter longer
  have apart : Text.levelValue shorter ≠ Text.levelValue longer :=
    Nat.ne_of_lt (levelValue_onesKey 4301)
  have others : ∀ other, other ≠ "auth" → (keyedDocument [shorter, longer]).member? other =
      (keyedDocument [longer, shorter]).member? other := by
    intro other unlike
    have differ : (other == "auth") = false := beq_false_of_ne unlike
    simp [keyedDocument, demoDocument, demoMenuDocument, demoAuth, Json.member?, Json.members?,
      List.lookup_cons, differ]
  have short : Pattern.level.accepts shorter = true := accepts_onesKey 4300
  have long : Pattern.level.accepts longer = true := accepts_onesKey 4301
  refine ⟨Schema.violations_eq_nil_iff.2 (accepts_keyedDocument ?_),
    Schema.violations_eq_nil_iff.2 (accepts_keyedDocument ?_), ⟨others, List.Perm.swap _ _ _⟩,
    apart, ofJson_keyedDocument (by decide) ?_ ?_ "cli.json",
    ofJson_keyedDocument (by decide) ?_ ?_ "cli.json", fun same => apart (congrArg _ same)⟩
  · exact List.forall_mem_cons.2 ⟨short, List.forall_mem_singleton.2 long⟩
  · exact List.forall_mem_cons.2 ⟨long, List.forall_mem_singleton.2 short⟩
  · exact List.forall_mem_singleton.2 long
  · exact List.nodup_cons.2 ⟨by simpa using apart, List.nodup_singleton _⟩
  · exact List.forall_mem_singleton.2 short
  · exact List.nodup_cons.2 ⟨by simpa using apart.symm, List.nodup_singleton _⟩

end ShellMenu
