import ShellMenu.Artifact
import ShellMenu.Proofs.Build.Names
import ShellMenu.Proofs.Spec.Demo
import ShellMenu.Proofs.Text.Reading
import ShellMenu.Schema.Description

/-
  What stands between the braces of a routine. A shell takes no routine without a command in it,
  and blank lines are none. Every routine that is written line by line has a line that is not
  blank; a routine that holds a fragment has one unless the fragment is blank and its command
  takes no arguments, and then the script cannot be read.
-/

namespace ShellMenu

/-! ## Between the braces -/

namespace Bash.Routine

/-- The lines between the braces. -/
def inside (routine : Routine) : List String :=
  Text.splitAt '\n' (Text.trimEnd routine.code)

/-- There is nothing between the braces but blank lines. -/
def isHollow (routine : Routine) : Bool :=
  routine.inside.all Text.isBlankLine

theorem splitAt_source (routine : Routine) :
    Text.splitAt '\n' routine.source =
      Text.splitAt '\n' s!"\n# {routine.description}\n{routine.name} ()"
        ++ "\x7b" :: routine.inside ++ ["\x7d", ""] := by
  have lines : routine.source = Text.joinLines
      [s!"\n# {routine.description}\n{routine.name} ()", "\x7b", Text.trimEnd routine.code,
        "\x7d", ""] := by
    apply String.toList_injective
    simp [source, Text.joinLines, String.intercalate_cons_cons, toString]
  have whole : ∀ brace ∈ ["\x7b", "\x7d", ""], Text.splitAt '\n' brace = [brace] := by
    decide +kernel
  rw [lines, Text.splitAt_joinLines (by simp)]
  simp [inside, whole]

theorem isHollow_eq (routine : Routine) : routine.isHollow = Text.isBlankLine routine.code := by
  rw [isHollow, inside, Text.all_isBlankLine_splitAt, Text.trimEnd]
  exact Text.isBlankLine_trimEndWhere (fun _ blank => blank) _

theorem isHollow_eq_false_iff {routine : Routine} :
    routine.isHollow = false ↔ ∃ line ∈ routine.inside, Text.isBlankLine line = false := by
  rw [isHollow, List.all_eq_false]
  simp

theorem isHollow_ofLines (name description : String) (lines : List String) :
    (ofLines name description lines).isHollow = lines.all Text.isBlankLine := by
  rw [isHollow_eq, ofLines, Text.isBlankLine_joinLines]

/-- One line is enough. -/
theorem not_isHollow_ofLines (line : String) {lines : List String} (present : line ∈ lines)
    (solid : Text.isBlankLine line = false) (name description : String) :
    (ofLines name description lines).isHollow = false := by
  rw [isHollow_ofLines, List.all_eq_false]
  exact ⟨line, present, by simp [solid]⟩

/-- What the braces of a routine are checked for, under the name of the routine. -/
def census (routine : Routine) : String × Bool :=
  (routine.name, routine.isHollow)

theorem map_name_filter_isHollow (routines : List Routine) :
    (routines.filter isHollow).map name =
      ((routines.map census).filter Prod.snd).map Prod.fst := by
  simp only [List.filter_map, List.map_map, Function.comp_def, census]

end Bash.Routine

/-! ## Fragments -/

/-- A command that takes no arguments, with a fragment of nothing but white space. -/
def Fragments.leavesHollow (fragments : Fragments) (entry : Command × String) : Bool :=
  entry.1.args.isEmpty && (fragments.entries.lookup entry.2).any Text.isBlankLine

theorem Fragments.leavesHollow_eq_false_iff {fragments : Fragments} {entry : Command × String} :
    fragments.leavesHollow entry = false ↔
      (entry.1.args = [] → ∀ text, fragments.read entry.2 = .ok text →
        Text.isBlankLine text = false) := by
  rw [leavesHollow, read]
  cases fragments.entries.lookup entry.2 with
  | none => simp [failing]
  | some text => cases entry.1.args <;> simp

namespace Bash

theorem all_isBlankLine_fragmentLines (args : List Arg) (text : String) :
    (fragmentLines args text).all Text.isBlankLine = (args.isEmpty && Text.isBlankLine text) := by
  have trimmed : Text.isBlankLine (Text.trimEndNewlines text) = Text.isBlankLine text :=
    Text.isBlankLine_trimEndWhere (fun c feed => by rw [beq_iff_eq.1 feed]; decide) text
  cases args with
  | nil => simp [fragmentLines, trimmed]
  | cons arg others =>
      have assigned : Text.isBlankLine s!"{arg.name}=${1}" = false := by
        simp only [toString, Text.isBlankLine_append]
        have sign : Text.isBlankLine "=$" = false := by decide
        rw [sign, Bool.and_false, Bool.false_and]
      rw [fragmentLines, List.zipIdx_cons, List.map_cons, List.cons_append, List.all_cons, assigned]
      rfl

theorem fragmentRoutines_census (fragments : Fragments) (plan : MenuPlan) :
    Ends (fun routines => routines.map Routine.census =
        plan.fragments.map fun entry =>
          (fragmentRoutine plan.name entry.1.name, fragments.leavesHollow entry))
      (fun _ => True) (fragmentRoutines fragments plan) := by
  refine Ends.mapM_view fun entry _ => ?_
  have found : Ends (fun text => (fragments.entries.lookup entry.2) = some text) (fun _ => True)
      (fragments.read entry.2) := by
    rw [Fragments.read]
    split
    · exact Ends.ok ‹_›
    · exact trivial
  refine Ends.bind found fun text entered => Ends.ok ?_
  rw [Routine.census, Routine.isHollow_ofLines, all_isBlankLine_fragmentLines,
    Fragments.leavesHollow, entered]
  rfl

/-! ## The other routines -/

theorem errorRoutine_census : errorRoutine.census = ("error", false) := by
  decide +kernel

theorem authRoutine_census (method : AuthMethod) :
    Ends (fun routine => routine.census = ("auth_" ++ toString method.level, false))
      (fun _ => True) (authRoutine method) := by
  rw [authRoutine, levelRoutine]
  split
  · refine Ends.ok ?_
    have last : "return 0" ∈ authLines (toString method.level) method.digest := by
      rw [authLines]
      exact List.mem_append_right _ (by simp)
    rw [Routine.census, Routine.not_isHollow_ofLines _ last (by decide)]
    rfl
  · exact trivial

theorem menuRoutines_census (renderer : Banner.Renderer) (plan : MenuPlan) :
    Ends (fun routines => routines.map Routine.census =
        [("process_" ++ plan.name, false), ("prompt_" ++ plan.name, false), (plan.name, false)])
      (fun _ => True) (menuRoutines renderer plan) := by
  refine Ends.bind (Ends.any _) fun splash _ => Ends.bind (Ends.any _) fun _ _ => Ends.ok ?_
  have process : (processRoutine plan).isHollow = false :=
    Routine.not_isHollow_ofLines "esac" (by simp) (by decide) _ _
  have prompt : (promptRoutine plan).isHollow = false :=
    Routine.not_isHollow_ofLines "fi" (by simp) (by decide) _ _
  have menu : (menuRoutine plan splash).isHollow = false :=
    Routine.not_isHollow_ofLines "clear" (by simp) (by decide) _ _
  simp only [List.map_cons, List.map_nil, Routine.census, process, prompt, menu]
  rfl

/-- In the order of the script. -/
theorem script_census (spec : Spec) (fragments : Fragments) (renderer : Banner.Renderer) :
    Ends (fun script => script.routines.map Routine.census =
        ("error", false) :: spec.auth.methods.map (fun method =>
            ("auth_" ++ toString method.level, false))
          ++ (spec.plans .bash fragments).flatMap (fun plan => plan.fragments.map fun entry =>
            (fragmentRoutine plan.name entry.1.name, fragments.leavesHollow entry))
          ++ (spec.plans .bash fragments).flatMap fun plan =>
            [("process_" ++ plan.name, false), ("prompt_" ++ plan.name, false), (plan.name, false)])
      (fun _ => True) (script spec fragments renderer) := by
  refine Ends.bind (Ends.any _) fun _ _ => ?_
  refine Ends.bind (Ends.mapM_view fun method _ => authRoutine_census method) fun auth levels => ?_
  refine Ends.bind (Ends.mapM_view fun plan _ => fragmentRoutines_census fragments plan)
    fun included texts => ?_
  refine Ends.bind (Ends.mapM_view fun plan _ => menuRoutines_census renderer plan)
    fun menus served => Ends.ok ?_
  rw [← levels, ← map_flatten_eq_flatMap texts, ← map_flatten_eq_flatMap served,
    ← errorRoutine_census, List.map_append, List.map_append]
  rfl

end Bash

/-- The routines of the commands that leave theirs hollow. -/
def MenuPlan.hollowRoutines (fragments : Fragments) (plan : MenuPlan) : List String :=
  (plan.fragments.filter fragments.leavesHollow).map fun entry =>
    fragmentRoutine plan.name entry.1.name

theorem MenuPlan.hollowRoutines_eq_nil_iff {fragments : Fragments} {plan : MenuPlan} :
    plan.hollowRoutines fragments = [] ↔
      ∀ entry ∈ plan.fragments, fragments.leavesHollow entry = false := by
  rw [hollowRoutines, List.map_eq_nil_iff, List.filter_eq_nil_iff]
  simp

/-- The hollow routines of a script are those of the commands without arguments whose fragment is
blank, so a script that has no such command has a line in every routine that is not blank. -/
theorem hollow_routines_eq_blank_fragments (spec : Spec) (fragments : Fragments)
    (renderer : Banner.Renderer) (script : Bash.Script)
    (done : Bash.script spec fragments renderer = .ok script) :
    (∀ routine ∈ script.routines, Text.splitAt '\n' routine.source =
      Text.splitAt '\n' s!"\n# {routine.description}\n{routine.name} ()"
        ++ "\x7b" :: routine.inside ++ ["\x7d", ""]) ∧
    (script.routines.filter Bash.Routine.isHollow).map Bash.Routine.name =
      (spec.plans .bash fragments).flatMap (MenuPlan.hollowRoutines fragments) ∧
    ((∀ routine ∈ script.routines, ∃ line ∈ routine.inside, Text.isBlankLine line = false) ↔
      ∀ plan ∈ spec.plans .bash fragments, ∀ entry ∈ plan.fragments, entry.1.args = [] →
        ∀ text, fragments.read entry.2 = .ok text → Text.isBlankLine text = false) := by
  have census := (Bash.script_census spec fragments renderer).of_eq_ok done
  have hollow : (script.routines.filter Bash.Routine.isHollow).map Bash.Routine.name =
      (spec.plans .bash fragments).flatMap (MenuPlan.hollowRoutines fragments) := by
    have levels : (spec.auth.methods.map fun method =>
        ("auth_" ++ toString method.level, false)).filter Prod.snd = [] := by
      simp [List.filter_eq_nil_iff]
    have menus : ((spec.plans .bash fragments).flatMap fun plan =>
        [("process_" ++ plan.name, false), ("prompt_" ++ plan.name, false),
          (plan.name, false)]).filter Prod.snd = [] := by
      simp [List.filter_flatMap]
    rw [Bash.Routine.map_name_filter_isHollow, census, List.filter_append, List.filter_append,
      List.filter_cons_of_neg (by simp), levels, menus, List.nil_append, List.append_nil,
      List.filter_flatMap, List.map_flatMap]
    refine List.flatMap_congr fun plan _ => ?_
    rw [List.filter_map, List.map_map]
    rfl
  refine ⟨fun routine _ => routine.splitAt_source, hollow, ?_⟩
  simp only [← Bash.Routine.isHollow_eq_false_iff, ← Fragments.leavesHollow_eq_false_iff,
    ← MenuPlan.hollowRoutines_eq_nil_iff]
  rw [← List.flatMap_eq_nil_iff, ← hollow, List.map_eq_nil_iff, List.filter_eq_nil_iff]
  simp

/-! ## An empty fragment -/

def emptyFragmentDocument : Json :=
  demoDocument [("go", .obj [("description", .str "Go."), ("script", .str "s")])] []

def emptyFragmentSpec : Spec :=
  demoSpec [{ name := "go", description := "Go.", script := some (.str "s") }] []

theorem emptyFragmentDocument_leaves_hollow :
    Schema.description.violations emptyFragmentDocument = [] ∧
    Spec.ofJson emptyFragmentDocument "cli.json" = .ok emptyFragmentSpec ∧
    ∃ script, Bash.script emptyFragmentSpec (.ofList "sh" [("s", "")]) (fun _ _ => .ok "") =
        .ok script ∧
      (script.routines.filter Bash.Routine.isHollow).map Bash.Routine.name =
        ["fragment_main_go"] ∧
      ¬ ∀ routine ∈ script.routines, ∃ line ∈ routine.inside, Text.isBlankLine line = false := by
  have done : ∃ script, Bash.script emptyFragmentSpec (.ofList "sh" [("s", "")])
      (fun _ _ => .ok "") = .ok script := ⟨_, rfl⟩
  obtain ⟨script, done⟩ := done
  have hollow := (hollow_routines_eq_blank_fragments emptyFragmentSpec
    (.ofList "sh" [("s", "")]) (fun _ _ => .ok "") script done).2.1
  have named : (emptyFragmentSpec.plans .bash (.ofList "sh" [("s", "")])).flatMap
      (MenuPlan.hollowRoutines (.ofList "sh" [("s", "")])) = ["fragment_main_go"] := by
    decide +kernel
  refine ⟨by decide +kernel, rfl, script, done, hollow.trans named, fun filled => ?_⟩
  have none : script.routines.filter Bash.Routine.isHollow = [] := by
    rw [List.filter_eq_nil_iff]
    intro routine present
    simp [Bash.Routine.isHollow_eq_false_iff.2 (filled routine present)]
  rw [none, named] at hollow
  exact List.cons_ne_nil _ _ hollow.symm

end ShellMenu
