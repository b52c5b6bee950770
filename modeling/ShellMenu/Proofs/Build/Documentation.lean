import ShellMenu.Page
import ShellMenu.Proofs.Build.Names
import ShellMenu.Proofs.Spec.Demo
import ShellMenu.Proofs.Text.Reading
import ShellMenu.Schema.Description
import ShellMenu.Spec.Reader

/-
  What the documentation of a script adds to the lines that a shell runs. The fixed lines of a
  document are comments. The description and the two commands that name the address are taken
  from the menu file as they are: a line feed in one of them ends its comment, and what follows
  it is run. The lines of the script itself are all kept, in their order.
-/

namespace ShellMenu.Page

/-! ## Lines that are run -/

/-- A line that is not run: a blank one, a comment, or one that the page takes out of the view. -/
def isAside (dialect : Dialect) (line : String) : Bool :=
  Text.isBlankLine line || Text.startsWith line (commentMarker dialect)
    || Text.startsWith line (hiddenMarker dialect)

def code (dialect : Dialect) (lines : List String) : List String :=
  lines.filter fun line => !isAside dialect line

def codeLines (dialect : Dialect) (text : String) : List String :=
  code dialect (Text.splitAt '\n' text)

variable {dialect : Dialect}

theorem code_append (front rest : List String) :
    code dialect (front ++ rest) = code dialect front ++ code dialect rest :=
  List.filter_append _ _

theorem code_eq_nil_iff {lines : List String} :
    code dialect lines = [] ↔ ∀ line ∈ lines, isAside dialect line = true := by
  rw [code, List.filter_eq_nil_iff]
  simp

theorem codeLines_joinLines {lines : List String} (nonempty : lines ≠ []) :
    codeLines dialect (Text.joinLines lines) = lines.flatMap (codeLines dialect) := by
  rw [codeLines, Text.splitAt_joinLines nonempty, code, List.filter_flatMap]
  rfl

theorem codeLines_of_isBlankLine {text : String} (blank : Text.isBlankLine text = true) :
    codeLines dialect text = [] := by
  rw [codeLines, code_eq_nil_iff]
  intro line present
  rw [← Text.all_isBlankLine_splitAt, List.all_eq_true] at blank
  rw [isAside, blank line present]
  rfl

theorem codeLines_empty : codeLines dialect "" = [] :=
  codeLines_of_isBlankLine rfl

theorem codeLines_terminated (lines : List String) :
    codeLines dialect (Text.terminated lines) = lines.flatMap (codeLines dialect) := by
  cases lines with
  | nil => exact codeLines_of_isBlankLine (by decide)
  | cons line rest =>
      have ended : codeLines dialect (Text.joinLines (line :: rest) ++ "\n") =
          codeLines dialect (Text.joinLines (line :: rest)) ++ codeLines dialect "" := by
        have split : Text.splitAt '\n' (Text.joinLines (line :: rest) ++ "\n") =
            Text.splitAt '\n' (Text.joinLines (line :: rest)) ++ Text.splitAt '\n' "" :=
          Text.splitAt_eq_append (by simp)
        rw [codeLines, split, code_append]
        rfl
      rw [Text.terminated, ended, codeLines_joinLines (by simp), codeLines_empty, List.append_nil]

/-- The line feeds at the end of a text end no line that is run. -/
theorem codeLines_trimEndNewlines (text : String) :
    codeLines dialect (Text.trimEndNewlines text) = codeLines dialect text := by
  obtain ⟨dropped, feeds, parts⟩ := Text.exists_append_trimEndWhere (· == '\n') text
  cases dropped with
  | nil =>
      rw [List.append_nil] at parts
      exact congrArg _ (String.toList_injective parts).symm
  | cons c feedsLeft =>
      have feed : c = '\n' := by simpa using feeds c List.mem_cons_self
      subst feed
      have blank : Text.isBlankLine (String.ofList feedsLeft) = true := by
        rw [Text.isBlankLine, String.toList_ofList, List.all_eq_true]
        intro d present
        have feed : d = '\n' := by simpa using feeds d (List.mem_cons_of_mem _ present)
        subst feed
        decide
      have split : Text.splitAt '\n' text = Text.splitAt '\n' (Text.trimEndNewlines text)
          ++ Text.splitAt '\n' (String.ofList feedsLeft) :=
        Text.splitAt_eq_append (by rw [String.toList_ofList]; exact parts)
      have nothing : code dialect (Text.splitAt '\n' (String.ofList feedsLeft)) = [] :=
        codeLines_of_isBlankLine blank
      rw [codeLines, codeLines, split, code_append, nothing, List.append_nil]

/-! ## Comments -/

/-- What a text leaves on the lines after its first one. -/
def spilled (text : String) : List String :=
  (Text.splitAt '\n' text).tail

theorem spilled_eq_nil {text : String} (whole : '\n' ∉ text.toList) : spilled text = [] := by
  rw [spilled, Text.splitAt_of_not_mem whole, List.tail_cons]

def markers (dialect : Dialect) : List String :=
  [commentMarker dialect, hiddenMarker dialect]

theorem isAside_of_marker {marker : String} (marked : marker ∈ markers dialect) (text : String) :
    isAside dialect (marker ++ text) = true := by
  simp only [markers, List.mem_cons, List.not_mem_nil, or_false] at marked
  rcases marked with rfl | rfl
  · rw [isAside, startsWith_append, Bool.or_true, Bool.true_or]
  · rw [isAside, startsWith_append, Bool.or_true]

/-- A marker guards the first line of what follows it. -/
theorem codeLines_marked {marker gap : String} (marked : marker ∈ markers dialect)
    (whole : '\n' ∉ gap.toList) (text : String) :
    codeLines dialect (marker ++ gap ++ text) = code dialect (spilled text) := by
  have unbroken : '\n' ∉ (marker ++ gap).toList := by
    have known : ∀ known ∈ markers dialect, '\n' ∉ known.toList := by cases dialect <;> decide
    rw [String.toList_append, List.mem_append]
    exact not_or.2 ⟨known marker marked, whole⟩
  obtain ⟨first, rest, pieces, longer⟩ := Text.splitAt_append_of_not_mem unbroken text
  have aside : isAside dialect (marker ++ gap ++ first) = true := by
    rw [String.append_assoc]
    exact isAside_of_marker marked _
  rw [codeLines, longer, spilled, pieces, List.tail_cons, code,
    List.filter_cons_of_neg (by simp [aside])]
  rfl

theorem codeLines_remark {marker text : String} (marked : marker ∈ markers dialect)
    (whole : '\n' ∉ text.toList) : codeLines dialect (marker ++ text) = [] := by
  rw [← String.append_empty (s := marker ++ text), codeLines_marked marked whole]
  rfl

theorem codeLines_commentMarker : codeLines dialect (commentMarker dialect) = [] := by
  rw [← String.append_empty (s := commentMarker dialect)]
  exact codeLines_remark (.head _) (by decide)

theorem codeLines_rule {stroke : Char} (whole : '\n' ≠ stroke) :
    codeLines dialect (commentMarker dialect ++ " " ++ Text.repeated 42 stroke) = [] := by
  rw [codeLines_marked (.head _) (by decide), spilled_eq_nil]
  · rfl
  · rw [Text.repeated, String.toList_ofList, List.mem_replicate]
    exact fun present => whole present.2

theorem codeLines_heading {title : String} (whole : '\n' ∉ title.toList) :
    (heading (commentMarker dialect) title).flatMap (codeLines dialect) = [] := by
  simp only [heading, toString, List.flatMap_cons, List.flatMap_nil, codeLines_empty]
  rw [codeLines_rule (by decide), codeLines_marked (.head _) (by decide), spilled_eq_nil whole]
  rfl

theorem newline_not_mem_name (dialect : Dialect) : '\n' ∉ dialect.name.toList := by
  cases dialect <;> decide

theorem codeLines_headLines (dialect : Dialect) :
    (headLines dialect).flatMap (codeLines dialect) = [] := by
  have hidden : hiddenMarker dialect ∈ markers dialect := .tail _ (.head _)
  rw [List.flatMap_eq_nil_iff]
  simp only [headLines, List.forall_mem_cons, toString, String.append_assoc]
  refine ⟨codeLines_remark hidden ?_, codeLines_remark hidden ?_, codeLines_remark hidden ?_,
    codeLines_remark hidden ?_, codeLines_remark hidden ?_, by simp⟩ <;>
    simp only [readabilityFile, highlighter, toString, String.toList_append, List.mem_append,
      newline_not_mem_name] <;> decide

theorem codeLines_notes (dialect : Dialect) : (notes dialect).flatMap (codeLines dialect) = [] := by
  have marked : commentMarker dialect ∈ markers dialect := .head _
  simp only [notes, List.flatMap_cons, List.flatMap_nil, toString, codeLines_empty,
    codeLines_commentMarker]
  simp (disch := decide) only [codeLines_rule, codeLines_remark marked, List.nil_append,
    List.append_nil]
  rw [String.append_assoc, String.append_assoc]
  refine codeLines_remark marked ?_
  simp only [String.toList_append, List.mem_append, newline_not_mem_name]
  decide

/-- The lines of the description and of the two commands that are not their first ones. -/
def spilledLines (spec : Spec) (dialect : Dialect) : List String :=
  spilled (descriptionOf spec) ++ spilled (runCommand spec dialect)
    ++ spilled (shortCommand spec dialect)

theorem codeLines_introduction (spec : Spec) (dialect : Dialect) :
    (introduction spec dialect).flatMap (codeLines dialect) =
      code dialect (spilledLines spec dialect) := by
  have marked : commentMarker dialect ∈ markers dialect := .head _
  simp only [introduction, List.flatMap_append, List.flatMap_cons, List.flatMap_nil, toString,
    codeLines_commentMarker, codeLines_empty]
  simp (disch := decide) only [codeLines_heading, codeLines_remark marked, codeLines_marked marked]
  simp only [spilledLines, code_append, List.append_nil, List.nil_append]

/-! ## The document -/

theorem newline_not_mem_splitFirst (script : String) : '\n' ∉ (splitFirst script).1.toList := by
  rw [splitFirst, String.toList_ofList]
  intro present
  simpa using List.all_eq_true.1 List.all_takeWhile _ present

/-- Of a script without a line feed nothing follows its first line. -/
theorem splitAt_splitFirst (dialect : Dialect) (script : String) :
    ∃ rest, Text.splitAt '\n' script = (splitFirst script).1 :: rest ∧
      code dialect rest = codeLines dialect (splitFirst script).2 := by
  have whole := newline_not_mem_splitFirst script
  have parts := List.takeWhile_append_dropWhile (p := (· ≠ '\n')) (l := script.toList)
  have stops := List.head?_dropWhile_not (· ≠ '\n') script.toList
  have second : (splitFirst script).2 =
      String.ofList ((script.toList.dropWhile (· ≠ '\n')).drop 1) := rfl
  cases left : script.toList.dropWhile (· ≠ '\n') with
  | nil =>
      rw [left, List.append_nil] at parts
      have first : (splitFirst script).1 = script := by
        rw [splitFirst, parts, String.ofList_toList]
      refine ⟨[], ?_, ?_⟩
      · rw [first] at whole ⊢
        exact Text.splitAt_of_not_mem whole
      · rw [second, left]
        exact (codeLines_of_isBlankLine rfl).symm
  | cons c after =>
      rw [left] at parts stops second
      have feed : c = '\n' := by simpa using stops
      subst feed
      refine ⟨Text.splitAt '\n' (splitFirst script).2, ?_, rfl⟩
      have split : script.toList =
          (splitFirst script).1.toList ++ '\n' :: (splitFirst script).2.toList := by
        rw [second, splitFirst, String.toList_ofList, String.toList_ofList]
        exact parts.symm
      rw [Text.splitAt_eq_append split, Text.splitAt_of_not_mem whole, List.singleton_append]

theorem codeLines_index (spec : Spec) (script : String) (dialect : Dialect) :
    codeLines dialect (index spec script dialect) =
      codeLines dialect (splitFirst script).1 ++ code dialect (spilledLines spec dialect)
        ++ codeLines dialect (splitFirst script).2 := by
  rw [index, codeLines_terminated]
  simp only [List.flatMap_append, List.flatMap_cons, List.flatMap_nil, List.append_nil,
    codeLines_empty, codeLines_headLines, codeLines_introduction, codeLines_trimEndNewlines,
    codeLines_notes]

theorem head?_splitAt_index (spec : Spec) (script : String) (dialect : Dialect) :
    (Text.splitAt '\n' (index spec script dialect)).head? = some (splitFirst script).1 := by
  have start : ∃ more, index spec script dialect = (splitFirst script).1 ++ "\n" ++ more := by
    simp only [index, Text.terminated, List.cons_append]
    rw [Text.joinLines_cons _ (by simp), String.append_assoc]
    exact ⟨_, rfl⟩
  obtain ⟨more, start⟩ := start
  have split : Text.splitAt '\n' (index spec script dialect) =
      Text.splitAt '\n' (splitFirst script).1 ++ Text.splitAt '\n' more :=
    Text.splitAt_eq_append (by simp [start])
  rw [split, Text.splitAt_of_not_mem (newline_not_mem_splitFirst script)]
  rfl

theorem spilledLines_eq_nil {spec : Spec} (dialect : Dialect)
    (description : '\n' ∉ (descriptionOf spec).toList) (uri : '\n' ∉ spec.uri.display.toList) :
    spilledLines spec dialect = [] := by
  have run : '\n' ∉ (runCommand spec dialect).toList := by
    delta runCommand
    cases dialect <;> simp only [toString, String.toList_append, List.mem_append, uri] <;> decide
  have short : '\n' ∉ (shortCommand spec dialect).toList := by
    delta shortCommand
    cases dialect <;> simp only [toString, String.toList_append, List.mem_append, uri] <;> decide
  rw [spilledLines, spilled_eq_nil description, spilled_eq_nil run, spilled_eq_nil short]
  rfl

/-- A document starts as its script does, and the lines of the script that are run are run in
their order. So are, after the first of them, the lines that the description and the two commands
leave on lines of their own; there are none of these where neither the description nor the address
has a line feed. -/
theorem documented_code_eq_iff (spec : Spec) (script : String) (dialect : Dialect) :
    (Text.splitAt '\n' (index spec script dialect)).head? = (Text.splitAt '\n' script).head? ∧
      codeLines dialect (index spec script dialect) =
        code dialect ((Text.splitAt '\n' script).take 1)
          ++ code dialect (spilledLines spec dialect)
          ++ code dialect ((Text.splitAt '\n' script).drop 1) ∧
      (codeLines dialect (index spec script dialect) = codeLines dialect script ↔
        ∀ line ∈ spilledLines spec dialect, isAside dialect line = true) ∧
      ('\n' ∉ (descriptionOf spec).toList → '\n' ∉ spec.uri.display.toList →
        spilledLines spec dialect = []) := by
  obtain ⟨rest, lines, followed⟩ := splitAt_splitFirst dialect script
  have first : codeLines dialect (splitFirst script).1 = code dialect [(splitFirst script).1] := by
    rw [codeLines, Text.splitAt_of_not_mem (newline_not_mem_splitFirst script)]
  have document := codeLines_index spec script dialect
  rw [first, ← followed] at document
  have own : codeLines dialect script =
      code dialect [(splitFirst script).1] ++ code dialect rest := by
    rw [codeLines, lines, ← code_append, List.singleton_append]
  refine ⟨?_, ?_, ?_, spilledLines_eq_nil dialect⟩
  · rw [head?_splitAt_index, lines, List.head?_cons]
  · rw [document, lines]
    rfl
  · rw [document, own, List.append_cancel_right_eq, List.append_right_eq_self, code_eq_nil_iff]

/-! ## A description of two lines -/

def brokenDocument : Json :=
  demoDocument [("go", .obj [("description", .str "Go.")])] [("description", .str "Demo.\nls")]

def brokenSpec : Spec :=
  { demoSpec [{ name := "go", description := "Go." }] [] with
    description := some (.str "Demo.\nls") }

theorem brokenDocument_runs_its_description :
    Schema.description.violations brokenDocument = [] ∧
    Spec.ofJson brokenDocument "cli.json" = .ok brokenSpec ∧
    ∀ dialect, codeLines dialect (index brokenSpec "#!/usr/bin/env bash\necho hi\n" dialect) ≠
      codeLines dialect "#!/usr/bin/env bash\necho hi\n" := by
  refine ⟨by decide +kernel, rfl, fun dialect same => ?_⟩
  obtain ⟨_, _, alike, _⟩ :=
    documented_code_eq_iff brokenSpec "#!/usr/bin/env bash\necho hi\n" dialect
  have aside := alike.1 same "ls"
  cases dialect <;> exact absurd (aside (by decide +kernel)) (by decide +kernel)

end ShellMenu.Page
