import ShellMenu.Spec.Reader

/-
  A description with one menu. It is what the samples of the other modules have in common, and each
  of them says only what is particular about it.
-/

namespace ShellMenu

/-- The digest of the empty text. -/
def emptyDigest : String :=
  "da39a3ee5e6b4b0d3255bfef95601890afd80709"

/-- A level for each of the keys. -/
def demoAuth (keys : List String) : String × Json :=
  ("auth", .obj (keys.map fun key =>
    (key, .obj [("type", .str "hash"), ("hash", .str emptyDigest)])))

def demoMethod (level : Int) : AuthMethod where
  level := level
  kind := .str "hash"
  digest := emptyDigest

/-- The menu is given by its members, and may be followed by members of the description. -/
def demoMenuDocument (menu more : List (String × Json)) : Json :=
  .obj ([("title", .str "Demo"), ("uri", .str "demo.dev"), ("mainMenu", .str "main"),
    ("menus", .obj [("main", .obj menu)])] ++ more)

def demoDocument (commands more : List (String × Json)) : Json :=
  demoMenuDocument [("commands", .obj commands)] more

def demoSpec (commands : List Command) (levels : List Int) : Spec where
  title := .str "Demo"
  uri := .str "demo.dev"
  description := none
  mainMenu := "main"
  menus := [{ name := "main", commands := commands }]
  auth := AuthTable.ofList (levels.map demoMethod)

end ShellMenu
