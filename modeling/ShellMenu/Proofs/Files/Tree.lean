import Mathlib.Data.List.Induction
import ShellMenu.Files.Tree
import ShellMenu.Proofs.Outcome

/-
  What the operations on a tree can do to it. A directory is made where nothing was, and a text
  takes the place of a file or of nothing; no directory goes away. So a path that led somewhere,
  or met with a file or a name that is too long, does the same afterwards.
-/

namespace ShellMenu

/-- Such a path goes down from wherever it starts. -/
def Path.Descends (path : Path) : Prop :=
  path.absolute = false ∧ ".." ∉ path.parts

instance (path : Path) : Decidable path.Descends :=
  inferInstanceAs (Decidable (_ ∧ _))

theorem Path.climb_plain (parts : List String) : ".." ∉ climb parts := by
  have kept : ∀ (parts before : List String), ".." ∉ before →
      ".." ∉ parts.foldl (fun kept part =>
        if part.toList = ['.', '.'] then kept.drop 1 else part :: kept) before := by
    intro parts
    induction parts with
    | nil => exact fun _ plain => plain
    | cons part rest ih =>
        intro before plain
        rw [List.foldl_cons]
        split
        · exact ih _ fun present => plain (List.mem_of_mem_drop present)
        · next named =>
            refine ih _ fun present => ?_
            rcases List.mem_cons.1 present with rfl | later
            · exact named rfl
            · exact plain later
  rw [climb, List.mem_reverse]
  exact kept parts [] List.not_mem_nil

namespace FileTree

/-! ## Entries -/

theorem lookup_cons_eq (place other : List String) (entry : Entry)
    (entries : List (List String × Entry)) :
    ((place, entry) :: entries).lookup other =
      if other = place then some entry else entries.lookup other := by
  by_cases same : other = place
  · simp [same]
  · simp [List.lookup_cons, beq_false_of_ne same, same]

theorem lookup_setEntry (place other : List String) (entry : Entry)
    (entries : List (List String × Entry)) :
    (setEntry place entry entries).lookup other =
      if other = place then some entry else entries.lookup other := by
  induction entries with
  | nil => exact lookup_cons_eq place other entry []
  | cons first rest ih =>
      obtain ⟨name, old⟩ := first
      simp only [setEntry]
      split
      · next here =>
          subst here
          simp only [lookup_cons_eq]
          split <;> rfl
      · next differs =>
          simp only [lookup_cons_eq, ih]
          by_cases same : other = name
          · rw [if_pos same, if_pos same, if_neg (same ▸ differs)]
          · rw [if_neg same, if_neg same]

theorem get?_set (tree : FileTree) {place : List String} (below : place ≠ []) (entry : Entry)
    (other : List String) :
    (tree.set place entry).get? other = if other = place then some entry else tree.get? other := by
  cases other with
  | nil => rw [if_neg below.symm]; rfl
  | cons name rest =>
      simp only [get?, set, List.isEmpty_cons, Bool.false_eq_true, if_false]
      exact lookup_setEntry place (name :: rest) entry tree.entries

theorem ne_nil_of_get? {tree : FileTree} {place : List String}
    (found : tree.get? place ≠ some .directory) : place ≠ [] := by
  rintro rfl
  exact found rfl

/-! ## Steps of a path -/

section Walk

variable {tree : FileTree} {place rest : List String} {part : String}

theorem walk_cons_missing (found : tree.get? place = none) :
    tree.walk place (part :: rest) = .error .missing := by
  rw [walk, found]

theorem walk_cons_file {entry : Entry} (found : tree.get? place = some entry)
    (file : entry ≠ .directory) : tree.walk place (part :: rest) = .error .notDirectory := by
  rw [walk, found]
  cases entry with
  | directory => exact absurd rfl file
  | text content => rfl
  | binary bytes => rfl

theorem walk_cons_directory (found : tree.get? place = some .directory) :
    tree.walk place (part :: rest) =
      if longestName < part.utf8ByteSize then .error .nameTooLong
      else tree.walk (if part = ".." then place.dropLast else place ++ [part]) rest := by
  rw [walk, found]

theorem directory_of_walk {reached : List String}
    (done : tree.walk place (part :: rest) = .ok reached) : tree.get? place = some .directory := by
  cases found : tree.get? place with
  | none =>
      rw [walk_cons_missing found] at done
      cases done
  | some entry =>
      by_cases directory : entry = .directory
      · rw [directory]
      · rw [walk_cons_file found directory] at done
        cases done

theorem walk_append (above below : List String) :
    tree.walk place (above ++ below) =
      (tree.walk place above).bind fun reached => tree.walk reached below := by
  induction above generalizing place with
  | nil => rfl
  | cons part rest ih =>
      rw [List.cons_append]
      cases found : tree.get? place with
      | none =>
          rw [walk_cons_missing found, walk_cons_missing found]
          rfl
      | some entry =>
          by_cases directory : entry = .directory
          · subst directory
            rw [walk_cons_directory found, walk_cons_directory found]
            split
            · rfl
            · exact ih
          · rw [walk_cons_file found directory, walk_cons_file found directory]
            rfl

/-- Without double dots a path only goes down. -/
theorem eq_append_of_walk {parts reached : List String} (plain : ".." ∉ parts)
    (done : tree.walk place parts = .ok reached) : reached = place ++ parts := by
  induction parts generalizing place with
  | nil => rw [← Except.ok.inj done, List.append_nil]
  | cons part rest ih =>
      rw [walk_cons_directory (directory_of_walk done)] at done
      obtain ⟨differs, plainRest⟩ := List.ne_and_not_mem_of_not_mem_cons plain
      split at done
      · cases done
      · rw [if_neg differs.symm] at done
        rw [ih plainRest done, List.append_assoc]
        rfl

end Walk

/-! ## Changes -/

/-- What can become of a place when certain texts are written to it. -/
inductive Change (texts : String → Prop) : Option Entry → Option Entry → Prop
  | same {entry : Option Entry} : Change texts entry entry
  | made : Change texts none (some .directory)
  | written {old : Option Entry} {content : String} :
      texts content → old ≠ some .directory → Change texts old (some (.text content))

namespace Change

variable {texts : String → Prop} {first second third : Option Entry}

theorem trans (before : Change texts first second) (after : Change texts second third) :
    Change texts first third := by
  cases before with
  | same => exact after
  | made =>
      cases after with
      | same => exact .made
      | written _ file => exact absurd rfl file
  | written wanted file =>
      cases after with
      | same => exact .written wanted file
      | written again _ => exact .written again file

theorem mono {others : String → Prop} (change : Change texts first second)
    (more : ∀ content, texts content → others content) : Change others first second := by
  cases change with
  | same => exact .same
  | made => exact .made
  | written wanted file => exact .written (more _ wanted) file

theorem directory (change : Change texts (some .directory) second) : second = some .directory := by
  cases change with
  | same => rfl
  | written _ file => exact absurd rfl file

theorem file {entry : Entry} (change : Change texts (some entry) second)
    (file : entry ≠ .directory) : ∃ other, second = some other ∧ other ≠ .directory := by
  cases change with
  | same => exact ⟨entry, rfl, file⟩
  | written _ _ => exact ⟨_, rfl, Entry.noConfusion⟩

theorem there {entry : Entry} (change : Change texts (some entry) second) :
    ∃ other, second = some other := by
  cases change with
  | same => exact ⟨entry, rfl⟩
  | written _ _ => exact ⟨_, rfl⟩

theorem eq_of_untouched (change : Change texts first second) (found : second ≠ some .directory)
    (untouched : ∀ content, ¬ texts content) : first = second := by
  cases change with
  | same => rfl
  | made => exact absurd rfl found
  | written wanted _ => exact absurd wanted (untouched _)

theorem kept {entry : Entry} (change : Change texts (some entry) second)
    (untouched : ∀ content, ¬ texts content) : second = some entry := by
  cases change with
  | same => rfl
  | written wanted _ => exact absurd wanted (untouched _)

end Change

/-- The second tree is the first after some texts were written, with room made for them. -/
def Updated (writes : List (List String × String)) (before after : FileTree) : Prop :=
  ∀ place, Change (fun content => (place, content) ∈ writes) (before.get? place) (after.get? place)

namespace Updated

variable {writes : List (List String × String)} {before after : FileTree}

theorem refl (tree : FileTree) : Updated writes tree tree :=
  fun _ => .same

theorem trans {later : FileTree} (first : Updated writes before after)
    (second : Updated writes after later) : Updated writes before later :=
  fun place => (first place).trans (second place)

theorem mono {others : List (List String × String)} (updated : Updated writes before after)
    (more : writes ⊆ others) : Updated others before after :=
  fun place => (updated place).mono fun _ wanted => more wanted

/-! ## Paths -/

/-- A path that did not end at a missing directory leads where it led: directories stay, so both
walks take the same steps. -/
theorem walk_eq (updated : Updated writes before after) {place parts : List String}
    (settled : before.walk place parts ≠ .error .missing) :
    after.walk place parts = before.walk place parts := by
  induction parts generalizing place with
  | nil => rfl
  | cons part rest ih =>
      have change := updated place
      cases found : before.get? place with
      | none => exact absurd (walk_cons_missing found) settled
      | some entry =>
          rw [found] at change
          by_cases directory : entry = .directory
          · subst directory
            rw [walk_cons_directory found] at settled ⊢
            rw [walk_cons_directory change.directory]
            split
            · rfl
            · next short =>
                rw [if_neg short] at settled
                exact ih settled
          · obtain ⟨other, changed, file⟩ := change.file directory
            rw [walk_cons_file found directory, walk_cons_file changed file]

theorem locate_eq (updated : Updated writes before after) {base path : Path}
    (settled : before.locate base path ≠ .error .missing) :
    after.locate base path = before.locate base path := by
  simp only [locate] at settled ⊢
  split
  · rfl
  · next short =>
      rw [if_neg short] at settled
      split
      · next absolute =>
          rw [if_pos absolute] at settled
          exact updated.walk_eq settled
      · next relative =>
          rw [if_neg relative] at settled
          exact updated.walk_eq settled

theorem locate_of_ok (updated : Updated writes before after) {base path : Path}
    {place : List String} (reached : before.locate base path = .ok place) :
    after.locate base path = .ok place := by
  rw [updated.locate_eq (by simp [reached]), reached]

end Updated

/-! ## Differences -/

/-- Some place has changed. -/
def Differs (before after : FileTree) : Prop :=
  ∃ place, after.get? place ≠ before.get? place

theorem not_differs_self (tree : FileTree) : ¬ tree.Differs tree :=
  fun ⟨_, differs⟩ => differs rfl

theorem Updated.of_not_differs {writes : List (List String × String)} {before after : FileTree}
    (same : ¬ before.Differs after) : Updated writes after before := by
  intro place
  have equal : after.get? place = before.get? place :=
    not_not.1 fun differs => same ⟨place, differs⟩
  rw [equal]
  exact .same

/-- No change is taken back by writing elsewhere. -/
theorem Updated.differs_trans {writes others : List (List String × String)}
    {before middle after : FileTree} (first : Updated writes before middle)
    (second : Updated others middle after)
    (apart : ∀ place content other, (place, content) ∈ writes → (place, other) ∉ others)
    (differs : before.Differs middle) : before.Differs after := by
  obtain ⟨place, changed⟩ := differs
  refine ⟨place, ?_⟩
  have early := first place
  have late := second place
  generalize before.get? place = old at early changed ⊢
  generalize middle.get? place = new at early late changed
  cases early with
  | same => exact absurd rfl changed
  | made =>
      rw [late.directory]
      exact changed
  | written wanted _ =>
      rw [late.kept fun other => apart place _ other wanted]
      exact changed

/-! ## Looking -/

variable {tree after : FileTree} {base path : Path}

theorem look_eq (tree : FileTree) (base path : Path) :
    tree.look base path =
      if path.hasNul then .ok none
      else
        match tree.locate base path with
        | .ok place => .ok (tree.get? place)
        | .error .nameTooLong => breaking (.refused path.text .nameTooLong)
        | .error _ => .ok none := by
  rw [look, FileTree.entry]
  split
  · rfl
  · cases tree.locate base path with
    | error problem => cases problem <;> rfl
    | ok place =>
        simp only [bind, Except.bind]
        cases tree.get? place <;> rfl

theorem look_of_locate {place : List String} (nul : path.hasNul = false)
    (reached : tree.locate base path = .ok place) :
    tree.look base path = .ok (tree.get? place) := by
  simp [look_eq, nul, reached]

theorem locate_of_look {entry : Entry} (seen : tree.look base path = .ok (some entry)) :
    path.hasNul = false ∧ ∃ place, tree.locate base path = .ok place ∧
      tree.get? place = some entry := by
  rw [look_eq] at seen
  split at seen
  · cases seen
  · next nul =>
      split at seen
      · next place reached => exact ⟨by simpa using nul, place, reached, Except.ok.inj seen⟩
      · cases seen
      · cases seen

theorem locate_of_look_error {error : Error} (failed : tree.look base path = .error error) :
    path.hasNul = false ∧ tree.locate base path = .error .nameTooLong := by
  rw [look_eq] at failed
  split at failed
  · cases failed
  · next nul =>
      split at failed
      · cases failed
      · next long => exact ⟨by simpa using nul, long⟩
      · cases failed

/-- A path that led to an entry leads to what has become of it. -/
theorem Updated.look_after {before : FileTree} {writes : List (List String × String)}
    {entry : Entry} (updated : Updated writes before after)
    (seen : before.look base path = .ok (some entry)) :
    ∃ place, before.locate base path = .ok place ∧
      after.look base path = .ok (after.get? place) ∧
      Change (fun content => (place, content) ∈ writes) (some entry) (after.get? place) := by
  obtain ⟨nul, place, reached, held⟩ := locate_of_look seen
  have change := updated place
  rw [held] at change
  exact ⟨place, reached, look_of_locate nul (updated.locate_of_ok reached), change⟩

/-- Where nothing is there was nothing before. -/
theorem Updated.look_none {before : FileTree} {writes : List (List String × String)}
    (updated : Updated writes before after) (seen : after.look base path = .ok none) :
    before.look base path = .ok none := by
  cases old : before.look base path with
  | error error =>
      obtain ⟨nul, long⟩ := locate_of_look_error old
      have again : after.locate base path = .error .nameTooLong := by
        rw [updated.locate_eq (by simp [long]), long]
      simp [look_eq, nul, again, breaking] at seen
  | ok found =>
      cases found with
      | none => rfl
      | some entry =>
          obtain ⟨place, _, now, change⟩ := updated.look_after old
          obtain ⟨other, there⟩ := change.there
          rw [now, there] at seen
          cases seen

theorem Updated.look_directory {before : FileTree} {writes : List (List String × String)}
    (updated : Updated writes before after)
    (seen : before.look base path = .ok (some .directory)) :
    after.look base path = .ok (some .directory) := by
  obtain ⟨place, _, now, change⟩ := updated.look_after seen
  rw [now, change.directory]

theorem Updated.look_kept {before : FileTree} {writes : List (List String × String)} {entry : Entry}
    {place : List String} (updated : Updated writes before after)
    (seen : before.look base path = .ok (some entry))
    (reached : before.locate base path = .ok place)
    (untouched : ∀ content, (place, content) ∉ writes) :
    after.look base path = .ok (some entry) := by
  obtain ⟨here, found, now, change⟩ := updated.look_after seen
  cases found.symm.trans reached
  rw [now, change.kept untouched]

/-! ## Making directories -/

theorem makeDirectory_eq_ok (done : tree.makeDirectory base path = .ok after) :
    ∃ place, tree.locate base path = .ok place ∧ tree.get? place = none ∧
      after = tree.set place .directory := by
  obtain ⟨place, reached, done⟩ := exists_of_bind_eq_ok done
  split at done
  · cases done
  · cases found : tree.get? place with
    | some entry =>
        rw [found] at done
        cases done
    | none =>
        rw [found] at done
        exact ⟨place, reached, found, (Except.ok.inj done).symm⟩

theorem makeDirectory_updated (done : tree.makeDirectory base path = .ok after) :
    Updated [] tree after := by
  obtain ⟨place, _, free, rfl⟩ := makeDirectory_eq_ok done
  intro other
  have file : tree.get? place ≠ some .directory := by simp [free]
  rw [get?_set tree (ne_nil_of_get? file)]
  split
  · next here =>
      rw [here, free]
      exact .made
  · exact .same

theorem ensureDirectory_updated (done : tree.ensureDirectory base path = .ok after) :
    Updated [] tree after := by
  rw [ensureDirectory] at done
  split at done
  · next made =>
      cases done
      exact makeDirectory_updated made
  · cases done
    exact .refl tree
  · cases done

theorem makeDirectories_of_ensured {absolute : Bool} {parts : List String}
    (done : tree.ensureDirectory base ⟨absolute, parts.reverse⟩ = .ok after) :
    makeDirectories base absolute parts tree = (none, after) := by
  rw [makeDirectories]
  exact done

theorem makeDirectories_of_missing {absolute : Bool} {name : String} {above : List String}
    {middle : FileTree}
    (missing : tree.ensureDirectory base ⟨absolute, (name :: above).reverse⟩ = .error .missing)
    (made : makeDirectories base absolute above tree = (none, middle))
    (done : middle.ensureDirectory base ⟨absolute, (name :: above).reverse⟩ = .ok after) :
    makeDirectories base absolute (name :: above) tree = (none, after) := by
  unfold makeDirectories
  simp only [missing, made, done]

/-- What was made before a failure only makes room. -/
theorem makeDirectories_updated (base : Path) (absolute : Bool) (parts : List String)
    (tree : FileTree) : Updated [] tree (makeDirectories base absolute parts tree).2 := by
  fun_induction makeDirectories base absolute parts tree with
  | case1 parts tree path after done => exact ensureDirectory_updated done
  | case2 tree name above problem after failed path missing ih =>
      rw [failed] at ih
      exact ih
  | case3 tree name above middle made after path missing done ih =>
      rw [made] at ih
      exact ih.trans (ensureDirectory_updated done)
  | case4 tree name above after made problem path missing failed ih =>
      rw [made] at ih
      exact ih
  | case5 parts tree path problem failed other => exact .refl tree

theorem makeRoom_updated (tree : FileTree) (base path : Path) :
    Updated [] tree (tree.makeRoom base path).2 := by
  have made := makeDirectories_updated base path.parent.absolute path.parent.parts.reverse tree
  rw [makeRoom, ensurePath]
  split
  · exact .refl tree
  · split
    · next failed =>
        rw [failed] at made
        exact made
    · next done =>
        rw [done] at made
        exact made

/-! ## Writing -/

theorem put_eq_ok {content : String} (done : tree.put base path content = .ok after) :
    path.hasNul = false ∧ ∃ place, tree.locate base path = .ok place ∧
      tree.get? place ≠ some .directory ∧ after = tree.set place (.text content) := by
  rw [put] at done
  split at done
  · cases done
  · next nul =>
      split at done
      · next written =>
          cases done
          obtain ⟨place, reached, written⟩ := exists_of_bind_eq_ok written
          split at written
          · cases written
          · next file =>
              exact ⟨by simpa using nul, place, reached, file, (Except.ok.inj written).symm⟩
      · cases done

theorem updated_set_text {place : List String} (content : String)
    (file : tree.get? place ≠ some .directory) :
    Updated [(place, content)] tree (tree.set place (.text content)) := by
  intro other
  rw [get?_set tree (ne_nil_of_get? file)]
  split
  · next here =>
      rw [here]
      exact .written List.mem_cons_self file
  · exact .same

theorem eq_makeRoom_of_write_error {content : Result String} {error : Error}
    (failed : tree.write base path content = (.error error, after)) :
    after = (tree.makeRoom base path).2 := by
  rw [write] at failed
  split at failed
  · next made =>
      cases failed
      rw [made]
  · next made =>
      split at failed
      · cases failed
      · cases failed
        rw [made]

/-- A failed write may have made room, and no more. -/
theorem write_updated_of_error {content : Result String} {error : Error}
    (failed : tree.write base path content = (.error error, after)) : Updated [] tree after := by
  rw [eq_makeRoom_of_write_error failed]
  exact makeRoom_updated tree base path

theorem write_of_room {middle : FileTree} {text : String} (nul : path.parent.hasNul = false)
    (made : makeDirectories base path.parent.absolute path.parent.parts.reverse tree =
      (none, middle))
    (done : middle.put base path text = .ok after) :
    tree.write base path (.ok text) = (.ok (), after) := by
  have given : (Except.ok text : Result String).bind (middle.put base path) = .ok after := done
  simp [write, makeRoom, ensurePath, nul, made, given]

theorem write_eq_ok {content : Result String}
    (done : tree.write base path content = (.ok (), after)) :
    ∃ text place, content = .ok text ∧ after.look base path = .ok (some (.text text)) ∧
      after.locate base path = .ok place ∧ Updated [(place, text)] tree after := by
  have room := makeRoom_updated tree base path
  rw [write] at done
  split at done
  · cases done
  · next middle made =>
      rw [made] at room
      split at done
      · next written =>
          cases done
          obtain ⟨text, given, written⟩ := exists_of_bind_eq_ok written
          obtain ⟨nul, place, reached, file, rfl⟩ := put_eq_ok written
          have change := updated_set_text text file
          have again := change.locate_of_ok reached
          refine ⟨text, place, given, ?_, again, (room.mono (List.nil_subset _)).trans change⟩
          rw [look_of_locate nul again, get?_set middle (ne_nil_of_get? file), if_pos rfl]
      · cases done

/-! ## Places -/

/-- Everything lies in a directory. -/
def Grounded (tree : FileTree) : Prop :=
  ∀ entry ∈ tree.entries, tree.get? entry.1.dropLast = some .directory

instance (tree : FileTree) : Decidable tree.Grounded :=
  inferInstanceAs (Decidable (∀ entry ∈ tree.entries, _))

theorem Grounded.above (grounded : tree.Grounded) {place below : List String}
    (found : tree.get? (place ++ below) ≠ none) (strict : below ≠ []) :
    tree.get? place = some .directory := by
  induction below using List.reverseRecOn with
  | nil => exact absurd rfl strict
  | append_singleton rest name ih =>
      have held : (tree.entries.lookup (place ++ rest ++ [name])).isSome := by
        rw [← List.append_assoc] at found
        simpa [get?, Option.isSome_iff_ne_none] using found
      obtain ⟨entry, present, named⟩ := List.lookup_isSome_iff.1 held
      have parent := grounded entry present
      rw [← beq_iff_eq.1 named, List.dropLast_concat] at parent
      by_cases last : rest = []
      · rw [last, List.append_nil] at parent
        exact parent
      · exact ih (by simp [parent]) last

/-- Where a path starts when it is followed from `base`. -/
def start (base path : Path) : List String :=
  if path.absolute then [] else base.parts

theorem locate_eq_walk (tree : FileTree) (base path : Path) :
    tree.locate base path =
      if longestPath < path.text.utf8ByteSize then .error .nameTooLong
      else tree.walk (start base path) path.parts := by
  rw [locate, start]
  split
  · rfl
  · split <;> rfl

/-- The directory `out` is the place `root`, or will be once it is made: the double dots in it
follow directories that exist. -/
def Lands (tree : FileTree) (base out : Path) (root : List String) : Prop :=
  ∃ above below reached, out.parts = above ++ below ∧ ".." ∉ below ∧
    tree.walk (start base out) above = .ok reached ∧ root = reached ++ below

namespace Lands

variable {before : FileTree} {writes : List (List String × String)} {out : Path}
  {root place : List String}

theorem of_plain (tree : FileTree) (base : Path) {out : Path} (plain : ".." ∉ out.parts) :
    tree.Lands base out (start base out ++ out.parts) :=
  ⟨[], out.parts, start base out, rfl, plain, rfl, rfl⟩

theorem updated (lands : before.Lands base out root) (updated : Updated writes before after) :
    after.Lands base out root := by
  obtain ⟨above, below, reached, parts, plain, done, rfl⟩ := lands
  refine ⟨above, below, reached, parts, plain, ?_, rfl⟩
  rw [updated.walk_eq (by simp [done]), done]

theorem walk_join {above below reached : List String} (parts : out.parts = above ++ below)
    (done : tree.walk (start base out) above = .ok reached) (relative : path.absolute = false) :
    tree.walk (start base (out.join path)) (out.join path).parts =
      tree.walk reached (below ++ path.parts) := by
  have same : start base (out.join path) = start base out := by simp [start, Path.join, relative]
  have joined : (out.join path).parts = above ++ (below ++ path.parts) := by
    simp [Path.join, relative, parts]
  rw [same, joined, walk_append, done]
  rfl

/-- What lies below the directory lies below its place. -/
theorem locate_join (lands : tree.Lands base out root) (down : path.Descends)
    (found : tree.locate base (out.join path) = .ok place) : place = root ++ path.parts := by
  obtain ⟨above, below, reached, parts, plain, done, rfl⟩ := lands
  rw [locate_eq_walk, walk_join parts done down.1] at found
  split at found
  · cases found
  · rw [eq_append_of_walk (by simp [plain, down.2]) found, List.append_assoc]

end Lands

/-! ## Looking back -/

section Before

variable {before : FileTree} {writes : List (List String × String)} {out : Path}
  {root place : List String}

/-- A path to something that was there before led to it before. -/
theorem walk_back (grounded : before.Grounded) {parts : List String} (plain : ".." ∉ parts)
    (reached : after.walk place parts = .ok (place ++ parts))
    (found : before.get? (place ++ parts) ≠ none) :
    before.walk place parts = .ok (place ++ parts) := by
  induction parts generalizing place with
  | nil => exact reached
  | cons part rest ih =>
      obtain ⟨differs, plainRest⟩ := List.ne_and_not_mem_of_not_mem_cons plain
      have directory := grounded.above found (List.cons_ne_nil part rest)
      rw [walk_cons_directory (directory_of_walk reached)] at reached
      rw [walk_cons_directory directory]
      split at reached
      · cases reached
      · next short =>
          rw [if_neg differs.symm] at reached ⊢
          rw [if_neg short]
          rw [List.append_cons place part rest] at reached found ⊢
          exact ih plainRest reached found

theorem Lands.locate_back (lands : before.Lands base out root) (grounded : before.Grounded)
    (updated : Updated writes before after) (down : path.Descends)
    (reached : after.locate base (out.join path) = .ok place) (found : before.get? place ≠ none) :
    before.locate base (out.join path) = .ok place := by
  obtain ⟨above, below, middle, parts, plain, done, rfl⟩ := lands
  have plainAll : ".." ∉ below ++ path.parts := by simp [plain, down.2]
  have again : after.walk (start base out) above = .ok middle := by
    rw [updated.walk_eq (by simp [done]), done]
  rw [locate_eq_walk, walk_join parts again down.1] at reached
  rw [locate_eq_walk, walk_join parts done down.1]
  split at reached
  · cases reached
  · next short =>
      rw [if_neg short]
      cases eq_append_of_walk plainAll reached
      exact walk_back grounded plainAll reached found

/-- Writing elsewhere does not change what a path leads to, unless a directory was made there. -/
theorem Lands.look_back (lands : before.Lands base out root) (grounded : before.Grounded)
    (updated : Updated writes before after) (down : path.Descends)
    (untouched : ∀ content, (root ++ path.parts, content) ∉ writes) {found : Option Entry}
    (file : found ≠ some .directory) (seen : after.look base (out.join path) = .ok found) :
    before.look base (out.join path) = .ok found := by
  cases found with
  | some entry =>
      obtain ⟨nul, place, reached, held⟩ := locate_of_look seen
      have here := (lands.updated updated).locate_join down reached
      have change := updated place
      rw [here] at change
      have same := change.eq_of_untouched (by rw [← here, held]; exact file) untouched
      rw [← here, held] at same
      rw [look_of_locate nul (lands.locate_back grounded updated down reached (by simp [same])),
        same]
  | none => exact updated.look_none seen

end Before

end FileTree

end ShellMenu
