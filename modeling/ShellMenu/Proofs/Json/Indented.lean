import ShellMenu.Json.Reader.Lemmas
import ShellMenu.Proofs.Json.Leaves

/-
  A value survives being written with indentation. What is read back is stated with the text that
  follows, and with fuel that is only said to be enough, so that the readers of items and members
  put together what the readers of their parts give; the values in a value come from one
  induction over its parts.
-/

namespace ShellMenu.Json

/-! ## Parts -/

/-- What holds of a value when it holds of its parts holds of every value. -/
theorem parts {motive : Json → Prop} (null : motive .null) (bool : ∀ value, motive (.bool value))
    (int : ∀ value, motive (.int value)) (float : ∀ value, motive (.float value))
    (str : ∀ value, motive (.str value))
    (arr : ∀ items, (∀ item ∈ items, motive item) → motive (.arr items))
    (obj : ∀ members, (∀ member ∈ members, motive member.2) → motive (.obj members))
    (value : Json) : motive value :=
  @Json.rec motive (fun items => ∀ item ∈ items, motive item)
    (fun members => ∀ member ∈ members, motive member.2) (fun member => motive member.2)
    null bool int float str arr obj
    (List.forall_mem_nil _) (fun _ _ first others => List.forall_mem_cons.2 ⟨first, others⟩)
    (List.forall_mem_nil _) (fun _ _ first others => List.forall_mem_cons.2 ⟨first, others⟩)
    (fun _ _ inner => inner) value

mutual

/-- The test holds of the value and of everything in it. -/
def everywhere (test : Json → Bool) : Json → Bool
  | .arr items => test (.arr items) && everyItem test items
  | .obj members => test (.obj members) && everyMember test members
  | value => test value

def everyItem (test : Json → Bool) : List Json → Bool
  | [] => true
  | item :: rest => everywhere test item && everyItem test rest

def everyMember (test : Json → Bool) : List (String × Json) → Bool
  | [] => true
  | (_, value) :: rest => everywhere test value && everyMember test rest

end

variable {test : Json → Bool}

theorem everywhere_arr {items : List Json} :
    (Json.arr items).everywhere test = true ↔
      test (.arr items) = true ∧ ∀ item ∈ items, item.everywhere test = true := by
  have each : everyItem test items = items.all (everywhere test) := by
    induction items with
    | nil => rfl
    | cons item rest ih => rw [everyItem, ih, List.all_cons]
  rw [everywhere, each, Bool.and_eq_true, List.all_eq_true]

theorem everywhere_obj {members : List (String × Json)} :
    (Json.obj members).everywhere test = true ↔
      test (.obj members) = true ∧ ∀ member ∈ members, member.2.everywhere test = true := by
  have each : everyMember test members = members.all fun member => member.2.everywhere test := by
    induction members with
    | nil => rfl
    | cons member rest ih => rw [everyMember, ih, List.all_cons]
  rw [everywhere, each, Bool.and_eq_true, List.all_eq_true]

/-! ## Enough fuel -/

/-- From some amount of fuel on, the reader gives the value and leaves the rest. -/
def Reads {α : Type} (reader : Nat → List Char → Except ReadError (α × List Char))
    (chars : List Char) (value : α) (rest : List Char) : Prop :=
  ∃ least, ∀ fuel, least ≤ fuel → reader fuel chars = .ok (value, rest)

theorem Reads.step {α : Type} {reader : Nat → List Char → Except ReadError (α × List Char)}
    {chars rest : List Char} {value : α} (least : Nat)
    (succ : ∀ fuel, least ≤ fuel → reader (fuel + 1) chars = .ok (value, rest)) :
    Reads reader chars value rest := by
  refine ⟨least + 1, fun fuel enough => ?_⟩
  obtain ⟨before, rfl⟩ : ∃ before, fuel = before + 1 := ⟨fuel - 1, by omega⟩
  exact succ before (by omega)

section

variable {chars spaced after rest : List Char}

theorem reads_str (text : String) (rest : List Char) :
    Reads readValue ((writtenString text).toList ++ rest) (.str text) rest := by
  refine Reads.step 0 fun fuel _ => ?_
  rw [toList_writtenString, readValue, readString_written]
  rfl

theorem reads_scalar {c : Char} {value : Json} (plain : c ≠ '"' ∧ c ≠ '\x7b' ∧ c ≠ '[')
    (read : readScalar (c :: chars) = .ok (value, rest)) :
    Reads readValue (c :: chars) value rest := by
  refine Reads.step 0 fun fuel _ => ?_
  rw [readValue, read]
  all_goals simp [plain]

theorem reads_arr {items : List Json} (skipped : skipSpace chars = spaced)
    (opened : spaced.head? ≠ some ']') (read : Reads readItems spaced items rest) :
    Reads readValue ('[' :: chars) (.arr items) rest := by
  obtain ⟨least, read⟩ := read
  refine Reads.step least fun fuel enough => ?_
  rw [readValue, skipped]
  split
  · exact absurd rfl opened
  · rw [read fuel enough]
    rfl

theorem reads_obj {members : List (String × Json)} (skipped : skipSpace chars = spaced)
    (opened : spaced.head? ≠ some '\x7d') (read : Reads readMembers spaced members rest) :
    Reads readValue ('\x7b' :: chars) (.obj (distinctMembers members)) rest := by
  obtain ⟨least, read⟩ := read
  refine Reads.step least fun fuel enough => ?_
  rw [readValue, skipped]
  split
  · exact absurd rfl opened
  · rw [read fuel enough]
    rfl

theorem reads_empty_arr (rest : List Char) :
    Reads readValue ('[' :: ']' :: rest) (.arr []) rest := by
  refine Reads.step 0 fun fuel _ => ?_
  rw [readValue]
  rfl

theorem reads_empty_obj (rest : List Char) :
    Reads readValue ('\x7b' :: '\x7d' :: rest) (.obj []) rest := by
  refine Reads.step 0 fun fuel _ => ?_
  rw [readValue]
  rfl

theorem reads_lastItem {value : Json} (read : Reads readValue chars value after)
    (closed : skipSpace after = ']' :: rest) : Reads readItems chars [value] rest := by
  obtain ⟨least, read⟩ := read
  refine Reads.step least fun fuel enough => ?_
  rw [readItems, read fuel enough]
  simp only [bind, Except.bind, closed]

theorem reads_item {value : Json} {items : List Json} {more : List Char}
    (read : Reads readValue chars value after) (divided : skipSpace after = ',' :: more)
    (others : Reads readItems (skipSpace more) items rest) :
    Reads readItems chars (value :: items) rest := by
  obtain ⟨least, read⟩ := read
  obtain ⟨leastOthers, others⟩ := others
  refine Reads.step (max least leastOthers) fun fuel enough => ?_
  rw [readItems, read fuel (by omega)]
  simp only [bind, Except.bind, divided, others fuel (by omega)]
  rfl

/-- From the name of a member to its value. -/
theorem readMembers_named (name : String) {colon : List Char} (fuel : Nat) :
    readMembers (fuel + 1) ((writtenString name).toList ++ ':' :: colon) = (do
      let (value, rest) ← readValue fuel (skipSpace colon)
      match skipSpace rest with
      | '\x7d' :: rest => .ok ([(name, value)], rest)
      | ',' :: rest => do
          let (members, rest) ← readMembers fuel (skipSpace rest)
          return ((name, value) :: members, rest)
      | rest => refuse .expectedComma rest) := by
  rw [toList_writtenString, readMembers, readString_written]
  rfl

theorem reads_lastMember {name : String} {value : Json} {colon : List Char}
    (read : Reads readValue (skipSpace colon) value after)
    (closed : skipSpace after = '\x7d' :: rest) :
    Reads readMembers ((writtenString name).toList ++ ':' :: colon) [(name, value)] rest := by
  obtain ⟨least, read⟩ := read
  refine Reads.step least fun fuel enough => ?_
  rw [readMembers_named, read fuel enough]
  simp only [bind, Except.bind, closed]

theorem reads_member {name : String} {value : Json} {members : List (String × Json)}
    {colon more : List Char} (read : Reads readValue (skipSpace colon) value after)
    (divided : skipSpace after = ',' :: more)
    (others : Reads readMembers (skipSpace more) members rest) :
    Reads readMembers ((writtenString name).toList ++ ':' :: colon) ((name, value) :: members)
      rest := by
  obtain ⟨least, read⟩ := read
  obtain ⟨leastOthers, others⟩ := others
  refine Reads.step (max least leastOthers) fun fuel enough => ?_
  rw [readMembers_named, read fuel (by omega)]
  simp only [bind, Except.bind, divided, others fuel (by omega)]
  rfl

end

/-! ## Entries -/

/-- Starts with a character that neither is white space nor closes anything. -/
def Opens (chars : List Char) : Prop :=
  ∃ c more, chars = c :: more ∧ isSpace c = false ∧ c ≠ ']' ∧ c ≠ '\x7d'

theorem Opens.append {chars : List Char} (opens : Opens chars) (rest : List Char) :
    Opens (chars ++ rest) := by
  obtain ⟨c, more, rfl, plain⟩ := opens
  exact ⟨c, more ++ rest, rfl, plain⟩

theorem Opens.head?_ne {chars : List Char} (opens : Opens chars) :
    chars.head? ≠ some ']' ∧ chars.head? ≠ some '\x7d' := by
  obtain ⟨c, more, rfl, _, bracket, brace⟩ := opens
  exact ⟨fun same => bracket (Option.some.inj same), fun same => brace (Option.some.inj same)⟩

theorem skipSpace_cons {c : Char} (dark : isSpace c = false) (chars : List Char) :
    skipSpace (c :: chars) = c :: chars := by
  rw [skipSpace, List.dropWhile_cons_of_neg (by simp [dark])]

theorem skipSpace_newline (depth : Nat) (chars : List Char) :
    skipSpace ((newline depth).toList ++ chars) = skipSpace chars := by
  have blank : ∀ c ∈ (newline depth).toList, isSpace c = true := by
    intro c present
    rw [newline, String.toList_append, Text.repeated, List.mem_append] at present
    rcases present with feed | space
    · cases List.mem_singleton.1 feed
      rfl
    · rw [String.toList_ofList] at space
      cases List.eq_of_mem_replicate space
      rfl
  exact List.dropWhile_append_of_pos blank

theorem Opens.skipSpace_eq {chars : List Char} (opens : Opens chars) : skipSpace chars = chars := by
  obtain ⟨c, more, rfl, dark, _⟩ := opens
  exact skipSpace_cons dark more

theorem follows_newline (depth : Nat) (rest : List Char) :
    Follows ((newline depth).toList ++ rest) := by
  rw [newline, String.toList_append]
  exact ⟨_, Or.inr rfl⟩

theorem follows_separator (depth : Nat) (rest : List Char) :
    Follows (("," ++ newline depth).toList ++ rest) := by
  rw [String.toList_append, List.append_assoc]
  exact ⟨_, Or.inl rfl⟩

theorem skipSpace_separator (depth : Nat) {chars : List Char} (opens : Opens chars) :
    ∃ more, skipSpace (("," ++ newline depth).toList ++ chars) = ',' :: more ∧
      skipSpace more = chars := by
  refine ⟨(newline depth).toList ++ chars, ?_, ?_⟩
  · rw [String.toList_append, List.append_assoc]
    exact skipSpace_cons (by decide) _
  · rw [skipSpace_newline, opens.skipSpace_eq]

/-- The entries of a block and what follows them. -/
def entriesText (depth : Nat) (entries : List String) (closing : List Char) : List Char :=
  (("," ++ newline (depth + 1)).intercalate entries).toList ++ ((newline depth).toList ++ closing)

theorem toList_block {entries : List String} (nonempty : entries ≠ []) (depth : Nat)
    {opening closing : String} (first last : Char) (opened : opening.toList = [first])
    (closed : closing.toList = [last]) (rest : List Char) :
    (block depth opening closing entries).toList ++ rest =
      first :: ((newline (depth + 1)).toList ++ entriesText depth entries (last :: rest)) := by
  simp [block, nonempty, opened, closed, entriesText]

/-- Entries are read one after the other when each can be read before another one and before the
end. -/
theorem reads_entries {α : Type} {reader : Nat → List Char → Except ReadError (List α × List Char)}
    {text : α → String} {depth : Nat} {closing rest : List Char} {entries : List α}
    (nonempty : entries ≠ []) (opens : ∀ entry ∈ entries, Opens (text entry).toList)
    (last : ∀ entry ∈ entries,
      Reads reader ((text entry).toList ++ ((newline depth).toList ++ closing)) [entry] rest)
    (before : ∀ entry ∈ entries, ∀ chars others, Opens chars → Reads reader chars others rest →
      Reads reader ((text entry).toList ++ (("," ++ newline (depth + 1)).toList ++ chars))
        (entry :: others) rest) :
    Opens (entriesText depth (entries.map text) closing) ∧
      Reads reader (entriesText depth (entries.map text) closing) entries rest := by
  induction entries with
  | nil => exact absurd rfl nonempty
  | cons entry others ih =>
      rw [List.forall_mem_cons] at opens last before
      cases others with
      | nil =>
          rw [List.map_cons, List.map_nil, entriesText, String.intercalate_singleton]
          exact ⟨opens.1.append _, last.1⟩
      | cons second others =>
          obtain ⟨opened, read⟩ := ih (by simp) opens.2 last.2 before.2
          rw [List.map_cons, List.map_cons, entriesText, String.intercalate_cons_cons,
            String.toList_append, String.toList_append, List.append_assoc, List.append_assoc]
          exact ⟨opens.1.append _, before.1 _ _ opened read⟩

/-! ## Values -/

/-- What can be written and read again: an integer that is not too long, and an object that has
no name twice. -/
def isStorable : Json → Bool
  | .int value => isShortInteger value
  | .float _ => false
  | .obj members => decide (members.map Prod.fst).Nodup
  | _ => true

theorem indentedItems_eq (depth : Nat) (items : List Json) :
    indentedItems depth items = items.map (indented depth) := by
  induction items with
  | nil => rfl
  | cons item rest ih => rw [indentedItems, ih, List.map_cons]

def indentedMember (depth : Nat) (member : String × Json) : String :=
  writtenString member.1 ++ ": " ++ indented depth member.2

theorem indentedMembers_eq (depth : Nat) (members : List (String × Json)) :
    indentedMembers depth members = members.map (indentedMember depth) := by
  induction members with
  | nil => rfl
  | cons member rest ih =>
      rw [indentedMembers, ih, List.map_cons]
      rfl

theorem toList_indentedMember (depth : Nat) (member : String × Json) (rest : List Char) :
    (indentedMember depth member).toList ++ rest =
      (writtenString member.1).toList ++
        ':' :: ' ' :: ((member.2.indented depth).toList ++ rest) := by
  simp [indentedMember]

theorem setMember_of_not_mem {name : String} {members : List (String × Json)}
    (fresh : name ∉ members.map Prod.fst) (value : Json) :
    setMember name value members = members ++ [(name, value)] := by
  induction members with
  | nil => rfl
  | cons member rest ih =>
      rw [List.map_cons, List.mem_cons, not_or] at fresh
      rw [setMember, if_neg fun same => fresh.1 same.symm, ih fresh.2, List.cons_append]

theorem distinctMembers_of_nodup {members : List (String × Json)}
    (apart : (members.map Prod.fst).Nodup) : distinctMembers members = members := by
  suffices onwards : ∀ kept : List (String × Json), ((kept ++ members).map Prod.fst).Nodup →
      members.foldl (fun kept member => setMember member.1 member.2 kept) kept = kept ++ members by
    exact onwards [] apart
  clear apart
  induction members with
  | nil => exact fun kept _ => (List.append_nil kept).symm
  | cons member rest ih =>
      intro kept apart
      have fresh : member.1 ∉ kept.map Prod.fst := by
        rw [List.map_append, List.map_cons, List.nodup_append] at apart
        exact fun present => apart.2.2 _ present _ (.head _) rfl
      rw [List.foldl_cons, setMember_of_not_mem fresh, ih, List.append_assoc, List.singleton_append]
      rwa [List.append_assoc, List.singleton_append]

/-- A numeral starts like no other value and with no white space. -/
theorem first_of_integer (value : Int) :
    ∃ c more, (toString value).toList = c :: more ∧
      ∀ d ∈ ['"', '\x7b', '[', ']', '\x7d', ' ', '\t', '\n', '\r'], c ≠ d := by
  obtain ⟨c, more, text⟩ := List.exists_cons_of_ne_nil (toList_toString_int_ne_nil value)
  have numeral : c.isDigit = true ∨ c = '-' := mem_toString_int (by rw [text]; exact .head _)
  have none : ∀ d ∈ ['"', '\x7b', '[', ']', '\x7d', ' ', '\t', '\n', '\r'],
      ¬ (d.isDigit = true ∨ d = '-') := by simp
  exact ⟨c, more, text, fun d present same => none d present (same ▸ numeral)⟩

theorem opens_writtenString (text : String) : Opens (writtenString text).toList := by
  refine ⟨'"', text.toList.flatMap writtenChar ++ ['"'], ?_, by decide⟩
  rw [writtenString, String.toList_ofList]
  rfl

theorem opens_indented {value : Json} (storable : value.everywhere isStorable = true)
    (depth : Nat) : Opens (value.indented depth).toList := by
  have framed : ∀ (opening closing : String) (entries : List String) (c : Char),
      opening.toList = [c] → isSpace c = false → c ≠ ']' ∧ c ≠ '\x7d' →
      Opens (block depth opening closing entries).toList := by
    intro opening closing entries c single dark apart
    rw [block]
    split <;> simp only [String.toList_append, single] <;> exact ⟨c, _, rfl, dark, apart⟩
  cases value with
  | null => exact ⟨'n', "ull".toList, by rw [indented]; decide, by decide⟩
  | bool value =>
      cases value
      · exact ⟨'f', "alse".toList, by rw [indented]; decide, by decide⟩
      · exact ⟨'t', "rue".toList, by rw [indented]; decide, by decide⟩
  | int value =>
      obtain ⟨c, more, text, other⟩ := first_of_integer value
      simp only [List.forall_mem_cons] at other
      refine ⟨c, more, by rw [indented, text], ?_⟩
      simp [isSpace, other]
  | float value => cases storable
  | str text => exact opens_writtenString text
  | arr items => exact framed "[" "]" _ '[' rfl rfl (by decide)
  | obj members => exact framed "\x7b" "\x7d" _ '\x7b' rfl rfl (by decide)

theorem reads_word {word : String} {value : Json} {rest : List Char}
    (known : (word, value) ∈ [("null", .null), ("true", .bool true), ("false", .bool false)]) :
    Reads readValue (word.toList ++ rest) value rest := by
  simp only [List.mem_cons, List.not_mem_nil, or_false, Prod.mk.injEq] at known
  rcases known with ⟨rfl, rfl⟩ | ⟨rfl, rfl⟩ | ⟨rfl, rfl⟩
  · exact reads_scalar (c := 'n') (by decide) rfl
  · exact reads_scalar (c := 't') (by decide) rfl
  · exact reads_scalar (c := 'f') (by decide) rfl

theorem reads_items {items : List Json} (nonempty : items ≠ []) (depth : Nat) (rest : List Char)
    (opens : ∀ item ∈ items, Opens (item.indented (depth + 1)).toList)
    (each : ∀ item ∈ items, ∀ rest, Follows rest →
      Reads readValue ((item.indented (depth + 1)).toList ++ rest) item rest) :
    Reads readValue ((block depth "[" "]" (items.map (indented (depth + 1)))).toList ++ rest)
      (.arr items) rest := by
  have closed : skipSpace ((newline depth).toList ++ ']' :: rest) = ']' :: rest := by
    rw [skipSpace_newline, skipSpace_cons (by decide)]
  obtain ⟨opened, read⟩ :
      Opens (entriesText depth (items.map (indented (depth + 1))) (']' :: rest)) ∧
      Reads readItems (entriesText depth (items.map (indented (depth + 1))) (']' :: rest))
        items rest := by
    refine reads_entries nonempty opens ?_ ?_
    · intro item present
      exact reads_lastItem (each item present _ (follows_newline depth _)) closed
    · intro item present chars others opens read
      obtain ⟨more, divided, skipped⟩ := skipSpace_separator (depth + 1) opens
      refine reads_item (each item present _ (follows_separator _ _)) divided ?_
      rw [skipped]
      exact read
  rw [toList_block (by simpa using nonempty) depth '[' ']' rfl rfl]
  exact reads_arr (by rw [skipSpace_newline, opened.skipSpace_eq]) opened.head?_ne.1 read

theorem reads_members {members : List (String × Json)} (nonempty : members ≠ [])
    (apart : (members.map Prod.fst).Nodup) (depth : Nat) (rest : List Char)
    (opens : ∀ member ∈ members, Opens (member.2.indented (depth + 1)).toList)
    (each : ∀ member ∈ members, ∀ rest, Follows rest →
      Reads readValue ((member.2.indented (depth + 1)).toList ++ rest) member.2 rest) :
    Reads readValue
      ((block depth "\x7b" "\x7d" (members.map (indentedMember (depth + 1)))).toList ++ rest)
      (.obj members) rest := by
  have closed : skipSpace ((newline depth).toList ++ '\x7d' :: rest) = '\x7d' :: rest := by
    rw [skipSpace_newline, skipSpace_cons (by decide)]
  have valued : ∀ member ∈ members, ∀ rest, Follows rest → Reads readValue
      (skipSpace (' ' :: ((member.2.indented (depth + 1)).toList ++ rest))) member.2 rest := by
    intro member present rest follows
    have skipped : skipSpace (' ' :: ((member.2.indented (depth + 1)).toList ++ rest)) =
        (member.2.indented (depth + 1)).toList ++ rest :=
      ((opens member present).append rest).skipSpace_eq
    rw [skipped]
    exact each member present rest follows
  obtain ⟨opened, read⟩ :
      Opens (entriesText depth (members.map (indentedMember (depth + 1))) ('\x7d' :: rest)) ∧
      Reads readMembers (entriesText depth (members.map (indentedMember (depth + 1)))
        ('\x7d' :: rest)) members rest := by
    refine reads_entries nonempty ?_ ?_ ?_
    · intro member _
      rw [indentedMember, String.toList_append, String.toList_append, List.append_assoc]
      exact (opens_writtenString member.1).append _
    · intro member present
      rw [toList_indentedMember]
      exact reads_lastMember (valued member present _ (follows_newline depth _)) closed
    · intro member present chars others opens read
      obtain ⟨more, divided, skipped⟩ := skipSpace_separator (depth + 1) opens
      rw [toList_indentedMember]
      refine reads_member (valued member present _ (follows_separator _ _)) divided ?_
      rw [skipped]
      exact read
  have skipped : skipSpace ((newline (depth + 1)).toList ++
      entriesText depth (members.map (indentedMember (depth + 1))) ('\x7d' :: rest)) =
      entriesText depth (members.map (indentedMember (depth + 1))) ('\x7d' :: rest) := by
    rw [skipSpace_newline, opened.skipSpace_eq]
  have whole := reads_obj skipped opened.head?_ne.2 read
  rw [distinctMembers_of_nodup apart] at whole
  rw [toList_block (by simpa using nonempty) depth '\x7b' '\x7d' rfl rfl]
  exact whole

/-- What is written for a value is read as that value, whatever it is part of. -/
theorem reads_indented (value : Json) (storable : value.everywhere isStorable = true) (depth : Nat)
    {rest : List Char} (follows : Follows rest) :
    Reads readValue ((value.indented depth).toList ++ rest) value rest := by
  induction value using parts generalizing depth rest with
  | null => exact reads_word (by simp [indented])
  | bool value => cases value <;> exact reads_word (by simp [indented])
  | int value =>
      obtain ⟨c, more, text, other⟩ := first_of_integer value
      have short : isShortInteger value = true := by
        simpa only [everywhere, isStorable] using storable
      have read := readScalar_integer short follows
      rw [text, List.cons_append] at read
      rw [indented, text]
      exact reads_scalar ⟨other _ (by simp), other _ (by simp), other _ (by simp)⟩ read
  | float value => cases storable
  | str text => exact reads_str text rest
  | arr items ih =>
      have inner := (everywhere_arr.1 storable).2
      rw [indented, indentedItems_eq]
      by_cases empty : items = []
      · subst empty
        simpa [block] using reads_empty_arr rest
      · exact reads_items empty depth rest
          (fun item present => opens_indented (inner item present) (depth + 1))
          fun item present rest follows => ih item present (inner item present) (depth + 1) follows
  | obj members ih =>
      obtain ⟨distinct, inner⟩ := everywhere_obj.1 storable
      rw [indented, indentedMembers_eq]
      by_cases empty : members = []
      · subst empty
        simpa [block] using reads_empty_obj rest
      · exact reads_members empty (of_decide_eq_true distinct) depth rest
          (fun member present => opens_indented (inner member present) (depth + 1))
          fun member present rest follows =>
            ih member present (inner member present) (depth + 1) follows

/-! ## Characters of a file -/

/-- A character of a file: a line feed, or one that ASCII shows. -/
def IsPlain (c : Char) : Prop :=
  c = '\n' ∨ 0x20 ≤ c.toNat ∧ c.toNat < 0x7f

instance : DecidablePred IsPlain :=
  fun _ => inferInstanceAs (Decidable (_ ∨ _))

def PlainText (text : String) : Prop :=
  ∀ c ∈ text.toList, IsPlain c

/-- Decided along the text, and not by a search through all the characters that there are. -/
instance : DecidablePred PlainText :=
  fun text => List.decidableBAll IsPlain text.toList

theorem PlainText.append {left right : String} (first : PlainText left) (second : PlainText right) :
    PlainText (left ++ right) := by
  intro c present
  rw [String.toList_append, List.mem_append] at present
  exact present.elim (first c) (second c)

theorem PlainText.intercalate {separator : String} {entries : List String}
    (divides : PlainText separator) (each : ∀ entry ∈ entries, PlainText entry) :
    PlainText (separator.intercalate entries) := by
  induction entries with
  | nil => exact fun c present => absurd present (by simp)
  | cons entry rest ih =>
      rw [List.forall_mem_cons] at each
      cases rest with
      | nil =>
          rw [String.intercalate_singleton]
          exact each.1
      | cons second rest =>
          rw [String.intercalate_cons_cons]
          exact (each.1.append divides).append (ih each.2)

theorem plain_newline (depth : Nat) : PlainText (newline depth) := by
  refine PlainText.append (by decide) fun c present => ?_
  rw [Text.repeated, String.toList_ofList] at present
  cases List.eq_of_mem_replicate present
  decide

theorem PlainText.block {depth : Nat} {opening closing : String} {entries : List String}
    (opens : PlainText opening) (closes : PlainText closing)
    (each : ∀ entry ∈ entries, PlainText entry) :
    PlainText (block depth opening closing entries) := by
  rw [Json.block]
  split
  · exact opens.append closes
  · have divides : PlainText ("," ++ newline (depth + 1)) :=
      PlainText.append (by decide) (plain_newline _)
    exact (((opens.append (plain_newline _)).append (divides.intercalate each)).append
      (plain_newline _)).append closes

theorem plain_unitEscape (unit : Nat) : ∀ c ∈ unitEscape unit, IsPlain c := by
  have digit : ∀ n, IsPlain (Text.hexDigit n) := by
    have each : ∀ digit < 16, IsPlain (Nat.digitChar digit) := by decide
    exact fun n => each (n % 16) (Nat.mod_lt n (by decide))
  simp only [unitEscape, Text.hexDigits, List.nil_append, List.cons_append, List.forall_mem_cons]
  exact ⟨by decide, by decide, digit _, digit _, digit _, digit _, List.forall_mem_nil _⟩

theorem plain_writtenChar (c : Char) : ∀ d ∈ writtenChar c, IsPlain d := by
  unfold writtenChar
  split
  · next special =>
      simp only [Bool.or_eq_true, decide_eq_true_eq] at special
      rcases special with rfl | rfl <;> simp [IsPlain]
  iterate 5
    split
    · simp [IsPlain]
  split
  · next visible =>
      simp only [Bool.and_eq_true, decide_eq_true_eq] at visible
      exact List.forall_mem_singleton.2 (Or.inr visible)
  split
  · exact plain_unitEscape _
  · exact List.forall_mem_append.2 ⟨plain_unitEscape _, plain_unitEscape _⟩

theorem plain_writtenString (text : String) : PlainText (writtenString text) := by
  intro c present
  rw [writtenString, String.toList_ofList, List.mem_append, List.mem_cons] at present
  rcases present with (rfl | inside) | last
  · decide
  · obtain ⟨original, _, written⟩ := List.mem_flatMap.1 inside
    exact plain_writtenChar original c written
  · cases List.mem_singleton.1 last
    decide

theorem plain_integer (value : Int) : PlainText (toString value) := by
  intro c present
  rcases mem_toString_int present with digit | rfl
  · have range : 48 ≤ c.toNat ∧ c.toNat ≤ 57 := by
      simpa [Char.isDigit, Char.le_def, UInt32.le_iff_toNat_le] using digit
    exact Or.inr ⟨by omega, by omega⟩
  · decide

theorem plain_indented {value : Json} (storable : value.everywhere isStorable = true)
    (depth : Nat) : PlainText (value.indented depth) := by
  induction value using parts generalizing depth with
  | null => rw [indented]; decide
  | bool value => cases value <;> rw [indented] <;> decide
  | int value => exact plain_integer value
  | float value => cases storable
  | str text => exact plain_writtenString text
  | arr items ih =>
      have inner := (everywhere_arr.1 storable).2
      rw [indented, indentedItems_eq]
      refine PlainText.block (by decide) (by decide) (List.forall_mem_map.2 ?_)
      exact fun item present => ih item present (inner item present) (depth + 1)
  | obj members ih =>
      have inner := (everywhere_obj.1 storable).2
      rw [indented, indentedMembers_eq]
      refine PlainText.block (by decide) (by decide) (List.forall_mem_map.2 ?_)
      intro member present
      exact ((plain_writtenString member.1).append (by decide)).append
        (ih member present (inner member present) (depth + 1))

/-! ## Documents -/

/-- A document is a value and the line feed at the end of its file. -/
theorem readDocument_indented {value : Json} (storable : value.everywhere isStorable = true) :
    readDocument ((value.indented 0).toList ++ ['\n']) = .ok value := by
  have opens := (opens_indented storable 0).append ['\n']
  have unmarked : ((value.indented 0).toList ++ ['\n']).head? ≠ some (Char.ofNat 0xfeff) := by
    obtain ⟨c, more, text, _⟩ := opens_indented storable 0
    have plain := plain_indented storable 0 c (by rw [text]; exact .head _)
    rw [text]
    intro same
    cases Option.some.inj same
    exact absurd plain (by decide)
  obtain ⟨least, read⟩ := reads_indented value storable 0 ⟨[], Or.inr rfl⟩
  have enough : readValue (2 * ((value.indented 0).toList ++ ['\n']).length + 1 + least)
      ((value.indented 0).toList ++ ['\n']) =
      readValue (2 * ((value.indented 0).toList ++ ['\n']).length + 1)
        ((value.indented 0).toList ++ ['\n']) := readValue_add (by omega) least
  rw [readDocument, if_neg unmarked, opens.skipSpace_eq, ← enough, read _ (by omega)]
  rfl

end ShellMenu.Json
