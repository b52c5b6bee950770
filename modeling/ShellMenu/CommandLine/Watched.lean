import ShellMenu.CommandLine.Run

/-
  Which files a run looks at, so that a caller can fetch them beforehand, and which ones it has
  changed in the end.
-/

namespace ShellMenu.CommandLine

/-- The description, and the fragments once the description can be read. -/
def projectPaths (world : World) (directory : String) (tree : FileTree) : List Path :=
  let directory := projectDirectory world directory
  let fragments := match tree.readSpec world.directory directory with
    | .ok spec => (FileTree.scriptNames spec).flatMap fun name =>
        Dialect.all.map fun dialect => FileTree.fragmentPath directory dialect name
    | .error _ => []
  directory.child FileTree.descriptionFile :: fragments

def watched (world : World) (tree : FileTree) : Invocation → List Path
  | .build options =>
      let out := outDirectory world options
      projectPaths world options.directory tree ++ artifactPaths.map out.child
        ++ ((given options.reportJson).map fun path =>
          world.directory.resolve (Path.ofText path)).toList
  | .validate directory => projectPaths world directory tree
  | .list options => projectPaths world options.directory tree
  | .schema => []
  | .hashKey _ => []

def changes (before after : FileTree) : List (List String × Entry) :=
  after.entries.filter fun (place, entry) => before.get? place ≠ some entry

end ShellMenu.CommandLine
