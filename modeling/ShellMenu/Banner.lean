import ShellMenu.Placeholder
import ShellMenu.Spec.Basic
import ShellMenu.Text.Lines

/-
  Splash screens: plain text, or lettering that a renderer draws and that may have one color or
  the bands of a rainbow.
-/

namespace ShellMenu.Banner

/-- Draws a text in a font. -/
abbrev Renderer := Json → Json → Result String

/-- No font is installed. -/
def noFonts : Renderer := fun _ font => failing (.missingFont font.display)

/-- The lines without blanks at their ends and without blank lines at the end. -/
def trimArt (art : String) : List String :=
  let lines := (Text.splitAt '\n' (Text.fromCrlf art)).map Text.trimEnd
  (lines.reverse.dropWhile Text.isEmpty).reverse

def roundDouble (value : Binary64) : Result Int :=
  match value with
  | .nan => breaking .notANumber
  | value =>
      match value.addHalf.floor? with
      | some rounded => .ok rounded
      | none => breaking .beyondRange

/-- To the nearest integer, halves upwards, by adding a half in double precision. -/
def roundHalfUp (value : Json) : Result Int :=
  match value with
  | .float value => roundDouble value
  | value =>
      match value.integer? with
      | some value => roundDouble (Binary64.ofInt value)
      | none => breaking .incomparable

def palette : List String := ["RED", "YELLOW", "GREEN", "CYAN", "BLUE", "MAGENTA"]

/-- A sixth of the lines, rounded in double precision, and at least one. -/
def stride (count : Int) : Result Int := do
  let rounded ← roundDouble (Binary64.ofRatio (count < 0) count.natAbs palette.length)
  return max 1 rounded

/-- Beyond the last color it stays the last; a negative place counts from the end. -/
def colorAt (index stride : Int) : Result String :=
  if stride = 0 then breaking .zeroStride
  else
    let place := min (index.fdiv stride) (palette.length - 1)
    let place := if place < 0 then place + palette.length else place
    match if place < 0 then none else palette[place.toNat]? with
    | some color => .ok color
    | none => breaking .indexOutOfRange

/-- Behind the color of its place; a stride that is not zero has one for every place from zero
on. -/
def bandLine (stride : Int) (line : String × Nat) : String :=
  Placeholder.braced ((colorAt line.2 stride).toOption.getD "") ++ line.1

/-- No text has so many lines that there would be no stride. -/
def rainbow (lines : List String) : String :=
  if lines.isEmpty then ""
  else Text.joinLines (lines.zipIdx.map (bandLine ((stride lines.length).toOption.getD 1)))
    ++ Placeholder.braced "RESET"

def block (lines : List String) (color : String) : String :=
  Placeholder.braced (Text.upper color) ++ Text.joinLines lines ++ Placeholder.braced "RESET"

def isRainbow (color : String) : Bool :=
  Text.lower color = "rainbow"

def isKnownColor (color : String) : Bool :=
  isRainbow color || Variables.colorNames.contains (Text.upper color)

/-- An empty color is no color. -/
def colorText (color : Option Json) : Result (Option String) :=
  (color.filter Json.isSomething).mapM Json.text

def paint (color : Option String) (lines : List String) : String :=
  match color with
  | none => Text.joinLines lines
  | some color => if isRainbow color then rainbow lines else block lines color

/-- The color is checked before anything is drawn. -/
def render (sanitize : String → String) (renderer : Renderer) : Option Splash → Result String
  | none => .ok ""
  | some (.plain text) => .ok (sanitize text)
  | some (.art text font color) => do
      let color ← colorText color
      if let some name := color then
        if !isKnownColor name then failing (.unknownColor name)
      let art ← renderer text font
      return sanitize (paint color (trimArt art))

/-- A value that was not read as a splash: only nothing and text can be shown. -/
def renderValue (sanitize : String → String) : Json → Result String
  | .null => .ok ""
  | .str text => .ok (sanitize text)
  | value => failing (.unsupportedSplash value)

/-- What the renderer is asked for. -/
def request? : Option Splash → Option (Json × Json)
  | some (.art text font _) => some (text, font)
  | _ => none

end ShellMenu.Banner
