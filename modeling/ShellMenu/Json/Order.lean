import ShellMenu.Json.Basic

/-
  Comparison of values: numbers by their exact value, whether they are written as integers or
  doubles, texts by code points, and arrays by their first items that differ.
-/

namespace ShellMenu.Json

/-- Where a number lies on the line; `nowhere` is the value that equals nothing. -/
inductive Location where
  | leftEnd
  | point (numerator : Int) (denominator : Nat)
  | rightEnd
  | nowhere
deriving DecidableEq, Repr

def location? : Json → Option Location
  | .int value => some (.point value 1)
  | .bool value => some (.point (if value then 1 else 0) 1)
  | .float (.infinite negative) => some (if negative then .leftEnd else .rightEnd)
  | .float .nan => some .nowhere
  | .float value => value.fraction?.map fun (numerator, denominator) => .point numerator denominator
  | _ => none

def Location.atLeast : Location → Location → Bool
  | .nowhere, _ | _, .nowhere => false
  | .rightEnd, _ | _, .leftEnd => true
  | .leftEnd, _ | _, .rightEnd => false
  | .point n d, .point m e => m * d ≤ n * e

def Location.same : Location → Location → Bool
  | .point n d, .point m e => m * d = n * e
  | left, right => left = right

def sameNumber (left right : Json) : Bool :=
  match left.location?, right.location? with
  | some left, some right => left.same right
  | _, _ => false

mutual

/-- Equality of what arrays and objects hold. The members of an object have no order, and `nowhere`
is the same as itself. -/
def same : Json → Json → Bool
  | .null, .null => true
  | .str left, .str right => left = right
  | .arr left, .arr right => sameItems left right
  | .obj left, .obj right => left.length = right.length && sameMembers left right
  | left, right => sameNumber left right

def sameItems : List Json → List Json → Bool
  | [], [] => true
  | left :: lefts, right :: rights => same left right && sameItems lefts rights
  | _, _ => false

def sameMembers : List (String × Json) → List (String × Json) → Bool
  | [], _ => true
  | (name, left) :: lefts, rights =>
      (match rights.lookup name with
        | some right => same left right
        | none => false) && sameMembers lefts rights

end

def numberAtLeast? (left right : Json) : Option Bool := do
  let left ← left.location?
  let right ← right.location?
  return left.atLeast right

mutual

/-- Whether the left value is at least the right one; pairs that are neither numbers nor texts nor
arrays have no order. -/
def atLeast? : Json → Json → Option Bool
  | .str left, .str right => some (Text.atMost right left)
  | .arr left, .arr right => itemsAtLeast? left right
  | left, right => numberAtLeast? left right

/-- The first items that differ decide, and then the lengths. -/
def itemsAtLeast? : List Json → List Json → Option Bool
  | [], rights => some rights.isEmpty
  | _ :: _, [] => some true
  | left :: lefts, right :: rights =>
      if same left right then itemsAtLeast? lefts rights else atLeast? left right

end

example : atLeast? (.int 2) (.float (.ofDecimal false 15 (-1))) = some true := by decide +kernel
example : atLeast? (.arr [.null, .int 1]) (.arr [.null, .int 2]) = some false := by decide +kernel

end ShellMenu.Json
