import ShellMenu.Json.Writer
import ShellMenu.Spec.Basic
import ShellMenu.Text.Lines

/-
  The pages that a script is served as: a document that a shell can run and a browser can show,
  the page script that makes it readable there, and a small script that fetches it on Windows.
-/

namespace ShellMenu.Page

/-- Lines that the page script takes out of the view. -/
def hiddenMarker : Dialect → String
  | .bash => "##"
  | .batch => "REM"

def commentMarker : Dialect → String
  | .bash => "#"
  | .batch => "::"

def readabilityFile (dialect : Dialect) : String :=
  s!"readability_{dialect.name}.js"

def batchFile : String := "cmd.bat"

def accessorFile : String := "shell.bat"

/-- Fetches and starts the script. -/
def runCommand (spec : Spec) : Dialect → String
  | .batch =>
      let target := s!"%TEMP%\\{accessorFile}"
      s!"curl -sL https://{spec.uri.display}/{batchFile} -o {target} && {target}"
  | .bash => s!"bash <(curl -sL https://{spec.uri.display})"

def shortCommand (spec : Spec) : Dialect → String
  | .batch => s!"set \"c=help\" & %TEMP%\\{accessorFile}"
  | .bash => s!"c=help bash <(curl -sL https://{spec.uri.display})"

def heading (comment title : String) : List String :=
  let rule := comment ++ " " ++ Text.repeated 42 '='
  [rule, s!"{comment}   {title}", rule, ""]

def highlighter : String := "https://cdnjs.cloudflare.com/ajax/libs/prism/1.16.0"

def headLines (dialect : Dialect) : List String :=
  let hidden := hiddenMarker dialect
  [s!"{hidden} <script src=\"./{readabilityFile dialect}\"></script>",
   s!"{hidden} <link href=\"{highlighter}/themes/prism-okaidia.min.css\" rel=\"stylesheet\" />",
   s!"{hidden} <script src=\"{highlighter}/components/prism-core.min.js\" data-manual></script>",
   s!"{hidden} <script src=\"{highlighter}/components/prism-{dialect.name}.min.js\"></script>",
   s!"{hidden} <style>body \x7bcolor: #272822; background-color: #272822; font-size: 0.8em;\x7d "
     ++ "</style>"]

def descriptionOf (spec : Spec) : String :=
  match spec.description.filter Json.isSomething with
  | some description => description.display
  | none => "Remote CLI."

def introduction (spec : Spec) (dialect : Dialect) : List String :=
  let comment := commentMarker dialect
  heading comment "Introduction"
    ++ [s!"{comment} {descriptionOf spec}", comment, s!"{comment}   {runCommand spec dialect}",
        comment, ""]
    ++ heading comment "Advanced Usage"
    ++ [s!"{comment} A single command can be run without entering the menu by setting",
        s!"{comment} the c variable to the command and its arguments, separated by commas.",
        comment, s!"{comment}   {shortCommand spec dialect}", comment, ""]
    ++ heading comment "Source Code"
    ++ [s!"{comment} This script contains a large amount of comments so you can understand",
        s!"{comment} how it interacts with your system. If you're not interested in the",
        s!"{comment} technical details, you can just run the command above.", ""]

def notes (dialect : Dialect) : List String :=
  let comment := commentMarker dialect
  let rule := comment ++ " " ++ Text.repeated 42 '-'
  ["", rule, s!"{comment}   Notes", rule, comment,
   s!"{comment} This script contains hidden JavaScript which is used to improve",
   s!"{comment} readability in the browser (via syntax highlighting, etc), right-click",
   s!"{comment} and \"View source\" of this page to see the entire {dialect.name} script!", comment]

/-- The first line and what follows the line feed after it. -/
def splitFirst (script : String) : String × String :=
  let chars := script.toList
  (String.ofList (chars.takeWhile (· ≠ '\n')),
   String.ofList ((chars.dropWhile (· ≠ '\n')).drop 1))

/-- The script with comments put in after its first line and at its end. -/
def index (spec : Spec) (script : String) (dialect : Dialect) : String :=
  let (first, rest) := splitFirst script
  Text.terminated ([first, ""] ++ headLines dialect ++ introduction spec dialect
    ++ [Text.trimEndNewlines rest] ++ notes dialect)

/-- Moves the hidden lines to the head of the page and colors the rest. -/
def readability (title : Json) (language marker : String) : String :=
  let size := marker.length
  Text.terminated [
    "window.addEventListener(\"load\", () => \x7b",
    "    const $head = document.querySelector(\"head\");",
    "    const $body = document.querySelector(\"body\");",
    "    const script = $body.innerHTML.split(\"\\n\");",
    "    const content = script.reduce(",
    "        (content, line) => \x7b",
    s!"            if (line.slice(0, {size}) === \"{marker}\") \x7b",
    s!"                content.head.push(line.slice({size}));",
    "            \x7d else \x7b",
    "                content.body.push(line);",
    "            \x7d",
    "            return content;",
    "        \x7d,",
    "        \x7b head: [], body: [] \x7d,",
    "    );",
    "",
    "    const code = Prism.highlight(",
    "        content.body.join(\"\\n\"),",
    s!"        Prism.languages.{language},",
    s!"        \"{language}\",",
    "    );",
    "",
    "    $body.innerHTML =",
    s!"        \"<pre class='language-{language}'><code class='language-{language}'>\" +",
    "        code +",
    "        \"</code></pre>\";",
    "    const $title = document.createElement(\"title\");",
    s!"    $title.textContent = {title.written};",
    "    $head.innerHTML = content.head.join(\"\\n\");",
    "    $head.appendChild($title);",
    "\x7d);"]

def accessor (uri : String) : String :=
  Text.terminated [
    "@echo off",
    s!"powershell -NoProfile -Command \"(Invoke-WebRequest -UseBasicParsing https://{uri}/{batchFile})"
      ++ s!".Content | Out-File -Encoding ascii $env:TEMP\\{accessorFile}\"",
    s!"start \"\" \"%TEMP%\\{accessorFile}\"",
    "exit"]

end ShellMenu.Page
