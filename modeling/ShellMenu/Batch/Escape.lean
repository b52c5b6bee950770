import ShellMenu.Escape
import ShellMenu.Json.Access
import ShellMenu.Placeholder

namespace ShellMenu.Batch

/-- Placeholders become batch references, and a caret goes before what would redirect. -/
def escape (text : String) : String :=
  Escape.sequential "^" [">", "<", "|"] (Placeholder.convert Variables.batchNames text)

def valueText : Json → String
  | .bool value => if value then "true" else "false"
  | value => value.display

example : escape "$RED> |" = "%RED%^> ^|" := by decide +kernel

end ShellMenu.Batch
