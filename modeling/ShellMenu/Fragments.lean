import ShellMenu.Error

namespace ShellMenu

/-- The script fragments of one dialect, by name. -/
structure Fragments where
  extension : String
  entries : List (String × String) := []

namespace Fragments

/-- A repeated name keeps its place and takes the new text. -/
def put (name text : String) : List (String × String) → List (String × String)
  | [] => [(name, text)]
  | (other, old) :: rest =>
      if other = name then (other, text) :: rest else (other, old) :: put name text rest

def ofList (extension : String) (entries : List (String × String)) : Fragments :=
  { extension, entries := entries.foldl (fun kept entry => put entry.1 entry.2 kept) [] }

def fileName (extension name : String) : String :=
  s!"{name}.{extension}"

def has (fragments : Fragments) (name : String) : Bool :=
  (fragments.entries.lookup name).isSome

def fileNames (fragments : Fragments) : List String :=
  fragments.entries.map fun entry => fileName fragments.extension entry.1

def read (fragments : Fragments) (name : String) : Result String :=
  match fragments.entries.lookup name with
  | some text => .ok text
  | none => failing (.fragmentNotLoaded (fileName fragments.extension name))

end Fragments

end ShellMenu
