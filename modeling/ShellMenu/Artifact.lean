import ShellMenu.Bash.Script
import ShellMenu.Batch.Script
import ShellMenu.Page

/-
  The files that a build produces.
-/

namespace ShellMenu

/-- Everything that a build reads. -/
structure Context where
  spec : Spec
  bash : Fragments
  batch : Fragments

namespace Context

def fragments (context : Context) : Dialect → Fragments
  | .bash => context.bash
  | .batch => context.batch

def unsupported (context : Context) (dialect : Dialect) : List (String × String) :=
  context.spec.unsupported dialect (context.fragments dialect)

end Context

structure Scripts where
  bash : String
  batch : String

def Context.scripts (context : Context) (renderer : Banner.Renderer) : Result Scripts := do
  let bash ← Bash.script context.spec context.bash renderer
  let batch ← Batch.script context.spec context.batch renderer
  return { bash := bash.source, batch := batch.source }

/-- What the renderer is asked for while the two scripts are written, in order. -/
def Spec.artRequests (spec : Spec) : List (Json × Json) :=
  let once := spec.menus.filterMap fun menu => Banner.request? menu.splash
  once ++ once

structure Artifact where
  path : String
  content : String
deriving DecidableEq, Repr

def readabilityArtifact (spec : Spec) (dialect : Dialect) : Artifact :=
  { path := Page.readabilityFile dialect
    content := Page.readability spec.title dialect.name (Page.hiddenMarker dialect) }

/-- What Windows reads has its line ends. -/
def artifacts (spec : Spec) (scripts : Scripts) : List Artifact := [
  { path := "index.html", content := Page.index spec scripts.bash .bash },
  readabilityArtifact spec .bash,
  { path := Page.batchFile, content := Text.toCrlf (Page.index spec scripts.batch .batch) },
  readabilityArtifact spec .batch,
  { path := "w/index.html", content := Text.toCrlf (Page.accessor spec.uri.display) },
  { path := "CNAME", content := s!"{spec.uri.display}\n" }]

def artifactPaths : List String :=
  ["index.html", "readability_bash.js", "cmd.bat", "readability_batch.js", "w/index.html", "CNAME"]

theorem map_path_artifacts (spec : Spec) (scripts : Scripts) :
    (artifacts spec scripts).map Artifact.path = artifactPaths := rfl

def Context.build (context : Context) (renderer : Banner.Renderer) : Result (List Artifact) := do
  return artifacts context.spec (← context.scripts renderer)

end ShellMenu
