import ShellMenu.Error
import ShellMenu.Json.Order
import ShellMenu.Json.Writer
import ShellMenu.Schema.Pattern

/-
  What a JSON value may look like, and where a given value does not.
-/

namespace ShellMenu

inductive Schema where
  | text (nonEmpty : Bool) (pattern : Option Pattern)
  | integer (minimum : Option Int)
  | boolean
  | scalar
  | choice (texts : List String)
  | list (items : Schema)
  | record (required : List String) (fields : List (String × Schema))
  | map (nonEmpty : Bool) (names : Pattern) (values : Schema)
  | either (alternatives : List Schema)
  | named (name : String) (target : Schema)
  | described (schema : Schema) (description : String)

namespace Schema

/-! ## Problems -/

inductive Step where
  | member (name : String)
  | item (index : Nat)
deriving DecidableEq, Repr

def Step.text : Step → String
  | .item index => s!"[{index}]"
  | .member name =>
      if Pattern.pathName.accepts name then "." ++ name
      else "['" ++ Text.replaceAll "'" "\\'" (Text.replaceAll "\\" "\\\\" name) ++ "']"

structure Problem where
  path : List Step
  message : String
deriving DecidableEq, Repr

namespace Problem

def pathText (problem : Problem) : String :=
  "$" ++ String.join (problem.path.map Step.text)

def text (problem : Problem) : String :=
  if problem.path.isEmpty then problem.message else s!"{problem.pathText}: {problem.message}"

def under (step : Step) (problem : Problem) : Problem :=
  { problem with path := step :: problem.path }

def here (message : String) : Problem :=
  ⟨[], message⟩

end Problem

def ofKind (kinds : List String) (value : Json) : Problem :=
  .here s!"{value.literal} is not of type {Fault.listed (kinds.map Text.quoted)}"

def isInteger : Json → Bool
  | .int _ => true
  | .float value => value.toInt?.isSome
  | _ => false

def isScalar : Json → Bool
  | .str _ | .int _ | .float _ | .bool _ => true
  | _ => false

/-- Truth values are no numbers here. -/
def isBelow (bound : Int) : Json → Bool
  | .bool _ => false
  | value =>
      match value.location? with
      | some .nowhere => false
      | some location => !location.atLeast (.point bound 1)
      | none => false

def notAmong (choices : List String) (value : Json) : Problem :=
  .here s!"{value.literal} is not one of [{Fault.listed (choices.map Text.quoted)}]"

def emptyProblems (nonEmpty isEmpty : Bool) (value : Json) : List Problem :=
  if nonEmpty && isEmpty then [.here s!"{value.literal} should be non-empty"] else []

def patternProblems (pattern : Pattern) (text : String) : List Problem :=
  if pattern.accepts text then []
  else [.here s!"{Text.quoted text} does not match {Text.quoted pattern.source}"]

def minimumProblems (minimum : Option Int) (value : Json) : List Problem :=
  match minimum with
  | none => []
  | some bound =>
      if isBelow bound value then
        [.here s!"{value.literal} is less than the minimum of {bound}"]
      else []

def unexpectedProblems (fields : List String) (members : List (String × Json)) : List Problem :=
  match Text.sortTexts ((members.map Prod.fst).filter fun name => !fields.contains name) with
  | [] => []
  | extras =>
      let verb := if extras.length = 1 then "was" else "were"
      let names := Fault.listed (extras.map Text.quoted)
      [.here s!"Additional properties are not allowed ({names} {verb} unexpected)"]

def missingProblems (required : List String) (members : List (String × Json)) : List Problem :=
  (required.filter fun name => (members.lookup name).isNone).map fun name =>
    .here s!"{Text.quoted name} is a required property"

def itemProblems (problems : Json → List Problem) (items : List Json) : List Problem :=
  items.zipIdx.flatMap fun (item, index) => (problems item).map (Problem.under (.item index))

def memberProblems (problems : Json → List Problem) (members : List (String × Json)) :
    List Problem :=
  members.flatMap fun (name, value) => (problems value).map (Problem.under (.member name))

mutual

/-- All problems of a value, those of the value itself before those of its parts. -/
def problems : Schema → Json → List Problem
  | .text nonEmpty pattern, value =>
      match value with
      | .str content =>
          emptyProblems nonEmpty (Text.isEmpty content) value
            ++ (pattern.map (patternProblems · content)).getD []
      | _ => [ofKind ["string"] value]
  | .integer minimum, value =>
      (if isInteger value then [] else [ofKind ["integer"] value]) ++ minimumProblems minimum value
  | .boolean, value =>
      match value with
      | .bool _ => []
      | _ => [ofKind ["boolean"] value]
  | .scalar, value =>
      if isScalar value then [] else [ofKind ["string", "number", "boolean"] value]
  | .choice texts, value =>
      match value with
      | .str content => if texts.contains content then [] else [notAmong texts value]
      | _ => [notAmong texts value]
  | .list items, value =>
      match value with
      | .arr values => itemProblems (problems items) values
      | _ => [ofKind ["array"] value]
  | .record required fields, value =>
      match value with
      | .obj members =>
          unexpectedProblems (fields.map Prod.fst) members ++ missingProblems required members
            ++ fieldProblems fields members
      | _ => [ofKind ["object"] value]
  | .map nonEmpty names values, value =>
      match value with
      | .obj members =>
          emptyProblems nonEmpty members.isEmpty value
            ++ (members.map Prod.fst).flatMap (patternProblems names)
            ++ memberProblems (problems values) members
      | _ => [ofKind ["object"] value]
  | .either alternatives, value =>
      if fitsOne alternatives value then []
      else [.here s!"{value.literal} is not valid under any of the given schemas"]
  | .named _ target, value => problems target value
  | .described schema _, value => problems schema value

/-- In the order of the schema, whatever the order of the document. -/
def fieldProblems : List (String × Schema) → List (String × Json) → List Problem
  | [], _ => []
  | (name, schema) :: rest, members =>
      (match members.lookup name with
        | some value => (problems schema value).map (Problem.under (.member name))
        | none => [])
        ++ fieldProblems rest members

def fitsOne : List Schema → Json → Bool
  | [], _ => false
  | schema :: rest, value => (problems schema value).isEmpty || fitsOne rest value

end

def violations (schema : Schema) (value : Json) : List String :=
  (sortBy (fun left right => Text.atMost left.pathText right.pathText)
    (schema.problems value)).map Problem.text

/-! ## The schema as a document -/

def kindField (kind : String) : String × Json := ("type", .str kind)

def patternField (pattern : Pattern) : String × Json := ("pattern", .str pattern.source)

def flag (condition : Bool) (field : String × Json) : List (String × Json) :=
  if condition then [field] else []

def texts (names : List String) : Json := .arr (names.map Json.str)

mutual

def fields : Schema → List (String × Json)
  | .text nonEmpty pattern =>
      kindField "string" :: flag nonEmpty ("minLength", .int 1) ++ (pattern.map patternField).toList
  | .integer minimum =>
      kindField "integer" :: (minimum.map fun bound => ("minimum", Json.int bound)).toList
  | .boolean => [kindField "boolean"]
  | .scalar => [("type", texts ["string", "number", "boolean"])]
  | .choice names => [("enum", texts names)]
  | .list items => [kindField "array", ("items", .obj (fields items))]
  | .record required declared =>
      kindField "object" :: ("additionalProperties", .bool false)
        :: flag (!required.isEmpty) ("required", texts required)
        ++ [("properties", .obj (declaredFields declared))]
  | .map nonEmpty names values =>
      kindField "object" :: flag nonEmpty ("minProperties", .int 1)
        ++ [("propertyNames", .obj [patternField names]),
            ("additionalProperties", .obj (fields values))]
  | .either alternatives => [("oneOf", .arr (documents alternatives))]
  | .named name _ => [("$ref", .str ("#/definitions/" ++ name))]
  | .described schema description => fields schema ++ [("description", .str description)]

def declaredFields : List (String × Schema) → List (String × Json)
  | [] => []
  | (name, schema) :: rest => (name, .obj (fields schema)) :: declaredFields rest

def documents : List Schema → List Json
  | [] => []
  | schema :: rest => .obj (fields schema) :: documents rest

end

end Schema

end ShellMenu
