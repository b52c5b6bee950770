import ShellMenu.Proofs.Build.Documentation
import ShellMenu.Proofs.Spec.Demo

/-
  The description of a command stands as a remark above its arm or block, and above the routine
  that holds its fragment. It is written as it is: the marker guards its first line, and a line feed
  in it starts a line that is run unless it starts with a marker itself.
-/

namespace ShellMenu

open Page (spilled spilled_eq_nil)

namespace Caption

/-! ## Remarks -/

/-- What the remarks of a script start with. -/
def marker : Dialect → Char
  | .bash => '#'
  | .batch => ':'

def isIndent (c : Char) : Bool :=
  c = ' ' || c = '\t'

/-- The marker comes first after the indentation. -/
def isRemark (dialect : Dialect) (line : String) : Bool :=
  (line.toList.dropWhile isIndent).head? = some (marker dialect)

/-- The lines that are neither blank nor remarks. -/
def runLines (dialect : Dialect) (lines : List String) : List String :=
  lines.filter fun line => !(Text.isBlankLine line || isRemark dialect line)

/-- How many line feeds there are. -/
def feeds (text : String) : Nat :=
  text.toList.count '\n'

/-- The lines of a text that hold some of what stands behind an opening. -/
def linesBehind (opening inside text : String) : List String :=
  ((Text.splitAt '\n' text).drop (feeds opening)).take (feeds inside + 1)

/-- How a description stands in a text; `blank` is the same text without one. -/
structure Captioned (dialect : Dialect) (opening description text blank : String) : Prop where
  placed : ∃ rest, text = opening ++ description ++ "\n" ++ rest ∧ blank = opening ++ "\n" ++ rest
  commented_iff : (∀ line ∈ linesBehind opening description text, isRemark dialect line = true) ↔
    ∀ line ∈ spilled description, isRemark dialect line = true
  run : runLines dialect (Text.splitAt '\n' text) =
    runLines dialect (spilled description) ++ runLines dialect (Text.splitAt '\n' blank)

theorem feeds_append (left right : String) : feeds (left ++ right) = feeds left + feeds right := by
  rw [feeds, String.toList_append, List.count_append, feeds, feeds]

theorem feeds_eq_zero {text : String} (whole : '\n' ∉ text.toList) : feeds text = 0 :=
  List.count_eq_zero.2 whole

theorem runLines_append (dialect : Dialect) (left right : List String) :
    runLines dialect (left ++ right) = runLines dialect left ++ runLines dialect right :=
  List.filter_append _ _

theorem runLines_cons_of_isRemark {dialect : Dialect} {line : String}
    (remark : isRemark dialect line = true) (lines : List String) :
    runLines dialect (line :: lines) = runLines dialect lines :=
  List.filter_cons_of_neg (by simp [remark])

section Placing

variable {dialect : Dialect} {lead : String} (whole : '\n' ∉ lead.toList)
  (marked : ∀ more, isRemark dialect (lead ++ more) = true)

include whole marked

/-- A description right behind a marker on the first line of a text. -/
theorem captioned_first (description rest : String) :
    Captioned dialect lead description (lead ++ description ++ "\n" ++ rest)
      (lead ++ "\n" ++ rest) := by
  obtain ⟨first, others, pieces, longer⟩ := Text.splitAt_append_of_not_mem whole description
  have spills : spilled description = others := by rw [spilled, pieces, List.tail_cons]
  have text : Text.splitAt '\n' (lead ++ description ++ "\n" ++ rest) =
      (lead ++ first) :: others ++ Text.splitAt '\n' rest := by
    rw [← longer]
    exact Text.splitAt_eq_append (by simp)
  have blank : Text.splitAt '\n' (lead ++ "\n" ++ rest) = lead :: Text.splitAt '\n' rest := by
    rw [← List.singleton_append, ← Text.splitAt_of_not_mem whole]
    exact Text.splitAt_eq_append (by simp)
  have counted : feeds description + 1 = ((lead ++ first) :: others).length := by
    rw [← longer, Text.length_splitAt, ← feeds, feeds_append, feeds_eq_zero whole, Nat.zero_add]
  have alone : isRemark dialect lead = true := by simpa using marked ""
  refine ⟨⟨rest, rfl, rfl⟩, ?_, ?_⟩
  · have carried : linesBehind lead description (lead ++ description ++ "\n" ++ rest) =
        (lead ++ first) :: others := by
      rw [linesBehind, text, feeds_eq_zero whole, List.drop_zero, counted, List.take_left]
    rw [carried, List.forall_mem_cons, spills]
    exact and_iff_right (marked first)
  · rw [text, blank, spills, List.cons_append, runLines_cons_of_isRemark (marked first),
      runLines_append, runLines_cons_of_isRemark alone]

/-- A text that is made from its description, and starts with it. -/
theorem captioned_of_text (make : String → String) {rest : String}
    (text : ∀ description, make description = lead ++ description ++ "\n" ++ rest)
    (description : String) : Captioned dialect lead description (make description) (make "") := by
  have blank := text ""
  rw [String.append_empty] at blank
  rw [text description, blank]
  exact captioned_first whole marked description rest

end Placing

/-- An empty line may come first. -/
theorem Captioned.after_feed {dialect : Dialect} {opening description text blank : String}
    (captioned : Captioned dialect opening description text blank) :
    Captioned dialect ("\n" ++ opening) description ("\n" ++ text) ("\n" ++ blank) := by
  have split (text : String) : Text.splitAt '\n' ("\n" ++ text) = "" :: Text.splitAt '\n' text := by
    have parts : ("\n" ++ text).toList = "".toList ++ '\n' :: text.toList := by simp
    exact Text.splitAt_eq_append parts
  have empty (lines : List String) : runLines dialect ("" :: lines) = runLines dialect lines :=
    List.filter_cons_of_neg (by simp [Text.isBlankLine])
  obtain ⟨⟨rest, rfl, rfl⟩, commented, run⟩ := captioned
  refine ⟨⟨rest, by simp only [String.append_assoc], by simp only [String.append_assoc]⟩, ?_, ?_⟩
  · have one : feeds ("\n" ++ opening) = feeds opening + 1 := by
      rw [feeds_append, Nat.add_comm]
      rfl
    rw [← commented, linesBehind, split, one, List.drop_succ_cons, linesBehind]
  · rw [split, split, empty, empty, run]

theorem isRemark_bash_indented (more : String) : isRemark .bash ("    # " ++ more) = true := by
  simp [isRemark, isIndent, marker]

theorem isRemark_bash (more : String) : isRemark .bash ("# " ++ more) = true := by
  simp [isRemark, isIndent, marker]

theorem isRemark_batch (more : String) : isRemark .batch (": " ++ more) = true := by
  simp [isRemark, isIndent, marker]

end Caption

open Caption

/-! ## Arms, blocks and routines -/

/-- Each fragment is read and made into a routine, whatever a routine is. -/
theorem MenuPlan.forall₂_fragments {ρ : Type} {plan : MenuPlan} {fragments : Fragments}
    {make : Command × String → String → ρ} {holds : Command × String → ρ → Prop}
    (each : ∀ entry text, holds entry (make entry text)) {routines : List ρ}
    (done : plan.fragments.mapM (fun entry => do
      let text ← fragments.read entry.2
      return make entry text) = .ok routines) :
    List.Forall₂ holds plan.fragments routines := by
  refine (forall₂_of_mapM_eq_ok done).imp fun entry routine made => ?_
  exact (Ends.bind (Ends.any _) fun text _ => Ends.ok (each entry text)).of_eq_ok made

namespace Bash

theorem Arm.captioned (arm : Arm) :
    Captioned .bash "    # " arm.description arm.source { arm with description := "" }.source := by
  have text (description : String) : { arm with description := description }.source =
      "    # " ++ description ++ "\n" ++ Text.joinLines (s!"    {arm.pattern.source})"
        :: (arm.body.flatMap Statement.lines).map (bodyIndent ++ ·) ++ [bodyIndent ++ ";;"]) :=
    Text.joinLines_cons _ (by simp)
  exact captioned_of_text (by decide) isRemark_bash_indented
    (fun description => { arm with description := description }.source) text arm.description

theorem Routine.captioned (routine : Routine) :
    Captioned .bash "\n# " routine.description routine.source
      { routine with description := "" }.source := by
  have text (description : String) : { routine with description := description }.source =
      "\n" ++ ("# " ++ description ++ "\n" ++
        (routine.name ++ " ()\n\x7b\n" ++ Text.trimEnd routine.code ++ "\n\x7d\n")) := by
    apply String.toList_injective
    simp [source, toString]
  have blank := text ""
  rw [String.append_empty] at blank
  rw [text routine.description, blank]
  exact (captioned_first (by decide) isRemark_bash routine.description _).after_feed

end Bash

namespace Batch

theorem Block.captioned (block : Block) :
    Captioned .batch ": " block.description block.source
      { block with description := "" }.source := by
  have text (description : String) : { block with description := description }.source =
      ": " ++ description ++ "\n" ++ Text.joinLines (statementLines
        (block.matcher ++ block.body ++ [.line "exit /b", .label block.past])) :=
    Text.joinLines_cons _ (by simp [Statement.lines])
  exact captioned_of_text (by decide) isRemark_batch
    (fun description => { block with description := description }.source) text block.description

theorem Routine.captioned (routine : Routine) :
    Captioned .batch ": " routine.description routine.source
      { routine with description := "" }.source := by
  have text (description : String) : { routine with description := description }.source =
      ": " ++ description ++ "\n" ++ Text.terminated [s!":func_{routine.name}",
        s!"if NOT \"%func%\" == \"{routine.name}\" goto end_func_{routine.name}",
        Text.trimEnd routine.code, "exit /b", s!":end_func_{routine.name}"] := by
    rw [source, Text.terminated, Text.joinLines_cons _ (by simp), String.append_assoc]
    rfl
  exact captioned_of_text (by decide) isRemark_batch
    (fun description => { routine with description := description }.source) text
    routine.description

theorem block_description (plan : MenuPlan) (levels : List Int) (index : Nat)
    (planned : PlannedCommand) :
    Ends (fun block => block.description = planned.command.description) (fun _ => True)
      (block plan levels index planned) :=
  Ends.bind (Ends.any _) fun _ _ => Ends.bind (Ends.any _) fun _ _ => Ends.ok rfl

end Batch

/-- In an arm, a block and the routines of both dialects, the description of a command is a remark
exactly if each of its lines after the first one starts with a marker. Of these lines, the ones that
are neither blank nor marked are run before all else, and the description adds no other. There are
none where it has no line feed. -/
theorem description_commented_iff (spec : Spec) (bash batch : Fragments) :
    (∀ plan ∈ spec.plans .bash bash,
      (∀ planned ∈ plan.commands,
        Captioned .bash "    # " planned.command.description (Bash.arm plan planned).source
          { Bash.arm plan planned with description := "" }.source) ∧
      ∀ routines, Bash.fragmentRoutines bash plan = .ok routines →
        List.Forall₂ (fun entry routine =>
          Captioned .bash "\n# " entry.1.description routine.source
            { routine with description := "" }.source) plan.fragments routines) ∧
    (∀ plan ∈ spec.plans .batch batch,
      (∀ planned ∈ plan.commands, ∀ index block,
        Batch.block plan spec.levels index planned = .ok block →
          Captioned .batch ": " planned.command.description block.source
            { block with description := "" }.source) ∧
      ∀ routines, Batch.fragmentRoutines batch plan = .ok routines →
        List.Forall₂ (fun entry routine =>
          Captioned .batch ": " entry.1.description routine.source
            { routine with description := "" }.source) plan.fragments routines) ∧
    ∀ description : String, '\n' ∉ description.toList → spilled description = [] := by
  refine ⟨fun plan _ => ⟨fun planned _ => (Bash.arm plan planned).captioned, ?_⟩,
    fun plan _ => ⟨?_, ?_⟩, fun _ => spilled_eq_nil⟩
  · intro routines done
    exact MenuPlan.forall₂_fragments (fun entry text =>
      (Bash.Routine.ofLines _ entry.1.description (Bash.fragmentLines _ text)).captioned) done
  · intro planned _ index block done
    have same := (Batch.block_description plan spec.levels index planned).of_eq_ok done
    exact same ▸ block.captioned
  · intro routines done
    exact MenuPlan.forall₂_fragments (fun entry text =>
      (Batch.Routine.ofLines _ entry.1.description (Batch.fragmentLines _ text)).captioned) done

/-! ## A command that is described in two lines -/

def twoLineDocument : Json :=
  demoDocument [("go", .obj [("description", .str "Go.\nls"), ("script", .str "s")])] []

def twoLineCommand : Command where
  name := "go"
  description := "Go.\nls"
  script := some (.str "s")

def twoLineSpec : Spec :=
  demoSpec [twoLineCommand] []

/-- The second line is run in all four places. -/
theorem twoLineDocument_runs_its_description :
    let bash : Fragments := .ofList "sh" [("s", "pwd")]
    let batch : Fragments := .ofList "bat" [("s", "cd")]
    Schema.description.violations twoLineDocument = [] ∧
    Spec.ofJson twoLineDocument "cli.json" = .ok twoLineSpec ∧
    (∃ plan ∈ twoLineSpec.plans .bash bash, ∃ planned ∈ plan.commands, ∃ routine,
      Bash.fragmentRoutines bash plan = .ok [routine] ∧
      "ls" ∈ runLines .bash (Text.splitAt '\n' (Bash.arm plan planned).source) ∧
      "ls" ∈ runLines .bash (Text.splitAt '\n' routine.source)) ∧
    ∃ plan ∈ twoLineSpec.plans .batch batch, ∃ planned ∈ plan.commands, ∃ block routine,
      Batch.block plan twoLineSpec.levels 0 planned = .ok block ∧
      Batch.fragmentRoutines batch plan = .ok [routine] ∧
      "ls" ∈ runLines .batch (Text.splitAt '\n' block.source) ∧
      "ls" ∈ runLines .batch (Text.splitAt '\n' routine.source) := by
  intro bash batch
  obtain ⟨inBash, inBatch, _⟩ := description_commented_iff twoLineSpec bash batch
  have run {dialect : Dialect} {opening text blank : String}
      (captioned : Captioned dialect opening "Go.\nls" text blank) :
      "ls" ∈ runLines dialect (Text.splitAt '\n' text) := by
    rw [captioned.run, List.mem_append]
    exact Or.inl (by cases dialect <;> decide)
  refine ⟨by decide +kernel, rfl, ?_, ?_⟩
  · obtain ⟨arms, routines⟩ := inBash _ List.mem_cons_self
    refine ⟨_, List.mem_cons_self, ⟨twoLineCommand, .fragment "s"⟩, List.mem_cons_self, _, rfl,
      ?_, ?_⟩
    · exact run (arms ⟨twoLineCommand, .fragment "s"⟩ List.mem_cons_self)
    · exact run (List.forall₂_cons.1 (routines _ rfl)).1
  · obtain ⟨blocks, routines⟩ := inBatch _ List.mem_cons_self
    refine ⟨_, List.mem_cons_self, ⟨twoLineCommand, .fragment "s"⟩, List.mem_cons_self, _, _, rfl,
      rfl, ?_, ?_⟩
    · exact run (blocks ⟨twoLineCommand, .fragment "s"⟩ List.mem_cons_self 0 _ rfl)
    · exact run (List.forall₂_cons.1 (routines _ rfl)).1

end ShellMenu
