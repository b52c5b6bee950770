import ShellMenu.Artifact
import ShellMenu.Proofs.Text.Escaping
import ShellMenu.Proofs.Text.Reading

/-
  The two ways to end a line. Putting a carriage return before every line feed is undone by taking
  it away again, whatever the text is: a return that stood there before stays where it was. The
  other way around only the returns directly before a line feed are lost. So a text has one form
  with both characters, and it has the lines that the text had.
-/

namespace ShellMenu

namespace Text

/-! ## Line feeds with a carriage return and without -/

/-- A carriage return is put before each line feed. -/
def returned (chars : List Char) : List Char :=
  chars.flatMap fun c => if c = '\n' then ['\r', '\n'] else [c]

/-- The carriage return directly before a line feed is taken away. -/
def unreturned (chars : List Char) : List Char :=
  replaceFrom ['\r', '\n'] ['\n'] 0 chars

theorem toList_fromCrlf (text : String) : (fromCrlf text).toList = unreturned text.toList := by
  rw [fromCrlf, replaceAll, String.toList_ofList]
  rfl

theorem toList_toCrlf (text : String) :
    (toCrlf text).toList = returned (unreturned text.toList) := by
  rw [← toList_fromCrlf]
  exact toList_replaceAll_singleton '\n' "\r\n" (fromCrlf text)

@[simp] theorem returned_feed (rest : List Char) :
    returned ('\n' :: rest) = '\r' :: '\n' :: returned rest := rfl

theorem returned_cons {c : Char} (other : c ≠ '\n') (rest : List Char) :
    returned (c :: rest) = c :: returned rest := by
  rw [returned, List.flatMap_cons, if_neg other]
  rfl

theorem unreturned_feed (rest : List Char) :
    unreturned ('\r' :: '\n' :: rest) = '\n' :: unreturned rest := by
  have matched : ['\r', '\n'].isPrefixOf ('\r' :: '\n' :: rest) = true := by
    simp [List.isPrefixOf]
  rw [unreturned, replaceFrom, if_pos matched]
  rfl

theorem unreturned_cons {c : Char} {rest : List Char}
    (apart : c ≠ '\r' ∨ rest.head? ≠ some '\n') :
    unreturned (c :: rest) = c :: unreturned rest := by
  have differs : ['\r', '\n'].isPrefixOf (c :: rest) = false := by
    rcases apart with other | other
    · simp [List.isPrefixOf, Ne.symm other]
    · cases rest with
      | nil => simp [List.isPrefixOf]
      | cons d rest =>
          have noFeed : d ≠ '\n' := fun same => other (by rw [same]; rfl)
          simp [List.isPrefixOf, Ne.symm noFeed]
  rw [unreturned, replaceFrom, differs, if_neg Bool.false_ne_true]
  rfl

theorem head?_returned (chars : List Char) : (returned chars).head? ≠ some '\n' := by
  cases chars with
  | nil => simp [returned]
  | cons c rest =>
      by_cases feed : c = '\n'
      · subst feed
        simp
      · rw [returned_cons feed]
        simpa using feed

theorem unreturned_returned (chars : List Char) : unreturned (returned chars) = chars := by
  induction chars with
  | nil => rfl
  | cons c rest ih =>
      by_cases feed : c = '\n'
      · subst feed
        rw [returned_feed, unreturned_feed, ih]
      · rw [returned_cons feed, unreturned_cons (Or.inr (head?_returned rest)), ih]

theorem fromCrlf_toCrlf (text : String) : fromCrlf (toCrlf text) = fromCrlf text := by
  apply String.toList_injective
  rw [toList_fromCrlf, toList_toCrlf, unreturned_returned, toList_fromCrlf]

/-! ## Lines in a row -/

theorem unreturned_of_not_mem {chars : List Char} (whole : '\n' ∉ chars) :
    unreturned chars = chars := by
  induction chars with
  | nil => rfl
  | cons c rest ih =>
      rw [List.mem_cons, not_or] at whole
      have apart : rest.head? ≠ some '\n' := fun feed => whole.2 (List.mem_of_head? feed)
      rw [unreturned_cons (Or.inr apart), ih whole.2]

theorem unreturned_append_feed {front : List Char} (whole : '\n' ∉ front)
    (ends : front.getLast? ≠ some '\r') (rest : List Char) :
    unreturned (front ++ '\n' :: rest) = front ++ '\n' :: unreturned rest := by
  induction front with
  | nil => exact unreturned_cons (Or.inl (by decide))
  | cons c front ih =>
      rw [List.mem_cons, not_or] at whole
      cases front with
      | nil =>
          have other : c ≠ '\r' := fun same => ends (by rw [same]; rfl)
          rw [List.singleton_append, unreturned_cons (Or.inl other)]
          exact congrArg (c :: ·) (unreturned_cons (Or.inl (by decide)))
      | cons d front =>
          have apart : (d :: front ++ '\n' :: rest).head? ≠ some '\n' :=
            fun feed => whole.2 (by simpa using Or.inl (Option.some.inj feed).symm)
          rw [List.cons_append, unreturned_cons (Or.inr apart), ih whole.2 (by simpa using ends)]
          rfl

/-- Where no line ends in a carriage return, none is taken for a part of the line end. -/
theorem fromCrlf_joinLines {lines : List String} (whole : ∀ line ∈ lines, '\n' ∉ line.toList)
    (ends : ∀ line ∈ lines, line.toList.getLast? ≠ some '\r') :
    fromCrlf (joinLines lines) = joinLines lines := by
  apply String.toList_injective
  rw [toList_fromCrlf]
  induction lines with
  | nil => rfl
  | cons line rest ih =>
      rw [List.forall_mem_cons] at whole ends
      by_cases last : rest = []
      · subst last
        rw [joinLines, String.intercalate_singleton, unreturned_of_not_mem whole.1]
      · have parts : (joinLines (line :: rest)).toList =
            line.toList ++ '\n' :: (joinLines rest).toList := by
          rw [joinLines_cons line last]
          simp
        rw [parts, unreturned_append_feed whole.1 ends.1, ih whole.2 ends.2]

/-! ## No line feed alone -/

/-- A carriage return stands before every line feed. -/
def FeedsReturned (text : String) : Prop :=
  ∀ before after, text.toList = before ++ '\n' :: after → before.getLast? = some '\r'

theorem getLast?_of_returned_eq {chars before after : List Char}
    (parts : returned chars = before ++ '\n' :: after) : before.getLast? = some '\r' := by
  induction chars generalizing before with
  | nil => simp [returned] at parts
  | cons c rest ih =>
      by_cases feed : c = '\n'
      · subst feed
        rw [returned_feed] at parts
        match before with
        | [] => simp at parts
        | [first] =>
            obtain ⟨rfl, _⟩ := List.cons.inj parts
            rfl
        | first :: second :: before =>
            simp only [List.cons_append, List.cons.injEq] at parts
            simp [List.getLast?_cons, ih parts.2.2]
      · rw [returned_cons feed] at parts
        cases before with
        | nil => exact absurd (List.cons.inj parts).1 feed
        | cons first before => simp [List.getLast?_cons, ih (List.cons.inj parts).2]

theorem feedsReturned_toCrlf (text : String) : FeedsReturned (toCrlf text) := by
  intro before after parts
  rw [toList_toCrlf] at parts
  exact getLast?_of_returned_eq parts

end Text

/-- The files that are written for Windows. -/
def windowsPaths : List String :=
  ["cmd.bat", "w/index.html"]

theorem feedsReturned_of_mem_artifacts {spec : Spec} {scripts : Scripts} {artifact : Artifact}
    (listed : artifact ∈ artifacts spec scripts) (windows : artifact.path ∈ windowsPaths) :
    Text.FeedsReturned artifact.content := by
  simp only [artifacts, List.mem_cons, List.not_mem_nil, or_false] at listed
  rcases listed with rfl | rfl | rfl | rfl | rfl | rfl
  · exact absurd windows (show "index.html" ∉ windowsPaths by decide)
  · exact absurd windows (show "readability_bash.js" ∉ windowsPaths by decide)
  · exact Text.feedsReturned_toCrlf _
  · exact absurd windows (show "readability_batch.js" ∉ windowsPaths by decide)
  · exact Text.feedsReturned_toCrlf _
  · exact absurd windows (show "CNAME" ∉ windowsPaths by decide)

/-- With its carriage returns put in, a text has no line feed alone, nor has a file for Windows of
any specification. Nothing is left to put in, taking them out again gives what it gives of the text
itself, and the lines are those of the text. -/
theorem line_ends_canonical (text : String) :
    Text.FeedsReturned (Text.toCrlf text) ∧
    (∀ (spec : Spec) (scripts : Scripts), ∀ artifact ∈ artifacts spec scripts,
      artifact.path ∈ windowsPaths → Text.FeedsReturned artifact.content) ∧
    Text.toCrlf (Text.toCrlf text) = Text.toCrlf text ∧
    Text.replaceAll "\r\n" "\n" (Text.toCrlf text) = Text.replaceAll "\r\n" "\n" text ∧
    Text.normalizedLines (Text.toCrlf text) = Text.normalizedLines text := by
  have undone := Text.fromCrlf_toCrlf text
  refine ⟨Text.feedsReturned_toCrlf text, fun spec scripts artifact => ?_, ?_, undone, ?_⟩
  · exact feedsReturned_of_mem_artifacts
  · rw [Text.toCrlf, undone, ← Text.toCrlf]
  · rw [Text.normalizedLines, undone, ← Text.normalizedLines]

end ShellMenu
