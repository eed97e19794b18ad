/-!
# Values

Predicates compare values: the scalar views of nodes, literals and what is computed from them.
An integer equals a float of the same magnitude, and the order of the entries of a map does not
matter; every other pair of different kinds is unequal.
-/

namespace NodeQuery

/-- A dynamically typed value.  The entries of a map have different keys and keep their order. -/
inductive Value where
  | null
  | bool (value : Bool)
  | int (value : Int64)
  | float (value : Float)
  | string (value : String)
  | list (items : List Value)
  | map (entries : List (String × Value))
  deriving Inhabited

namespace Value

/-- The kind of a value in the words of an error message. -/
def kind : Value → String
  | .null => "null"
  | .bool _ => "bool"
  | .int _ => "int"
  | .float _ => "float"
  | .string _ => "string"
  | .list _ => "list"
  | .map _ => "map"

/-- `null`, `false`, zero and whatever is empty are false; all else is true. -/
def isTruthy : Value → Bool
  | .null => false
  | .bool value => value
  | .int value => value != 0
  | .float value => value != 0.0
  | .string value => !value.isEmpty
  | .list items => !items.isEmpty
  | .map entries => !entries.isEmpty

/-- The number of characters of a string, or of elements of a collection. -/
def length? : Value → Option Nat
  | .string value => some value.length
  | .list items => some items.length
  | .map entries => some entries.length
  | _ => none

/-- The text of a string. -/
def string? : Value → Option String
  | .string value => some value
  | _ => none

/-- The double nearest to an integer. -/
def floatOfInt (value : Int64) : Float := Float.ofInt value.toInt

/-- A number as a double. -/
def float? : Value → Option Float
  | .int value => some (floatOfInt value)
  | .float value => some value
  | _ => none

mutual

/-- Equality without promotion: an integer never equals a float. -/
def strictEq : Value → Value → Bool
  | .null, .null => true
  | .bool left, .bool right => left == right
  | .int left, .int right => left == right
  | .float left, .float right => left == right
  | .string left, .string right => left == right
  | .list left, .list right => strictEqList left right
  | .map left, .map right => left.length == right.length && strictEqEntries left right
  | _, _ => false

/-- Equal lists have equal elements at equal positions. -/
def strictEqList : List Value → List Value → Bool
  | [], [] => true
  | left :: lefts, right :: rights => strictEq left right && strictEqList lefts rights
  | _, _ => false

/-- Every entry has a partner with the same key and an equal value. -/
def strictEqEntries : List (String × Value) → List (String × Value) → Bool
  | [], _ => true
  | (key, value) :: entries, others =>
      (match others.lookup key with
        | some other => strictEq value other
        | none => false) && strictEqEntries entries others

end

mutual

/-- Equality with promotion: an integer equals a float if the nearest double does. -/
def looseEq : Value → Value → Bool
  | .null, .null => true
  | .bool left, .bool right => left == right
  | .int left, .int right => left == right
  | .float left, .float right => left == right
  | .int left, .float right => floatOfInt left == right
  | .float left, .int right => floatOfInt right == left
  | .string left, .string right => left == right
  | .list left, .list right => looseEqList left right
  | .map left, .map right => left.length == right.length && looseEqEntries left right
  | _, _ => false

/-- Equal lists have equal elements at equal positions. -/
def looseEqList : List Value → List Value → Bool
  | [], [] => true
  | left :: lefts, right :: rights => looseEq left right && looseEqList lefts rights
  | _, _ => false

/-- Every entry has a partner with the same key and an equal value. -/
def looseEqEntries : List (String × Value) → List (String × Value) → Bool
  | [], _ => true
  | (key, value) :: entries, others =>
      (match others.lookup key with
        | some other => looseEq value other
        | none => false) && looseEqEntries entries others

end

mutual

/-- A value with `null` in place of every float that is not a number JSON can write. -/
def finite : Value → Value
  | .float value => if value.isFinite then .float value else .null
  | .list items => .list (finiteList items)
  | .map entries => .map (finiteEntries entries)
  | value => value

def finiteList : List Value → List Value
  | [] => []
  | item :: items => finite item :: finiteList items

def finiteEntries : List (String × Value) → List (String × Value)
  | [] => []
  | (key, value) :: entries => (key, finite value) :: finiteEntries entries

end

/-- The order of two doubles, neither of which may be NaN. -/
def compareFloats? (left right : Float) : Option Ordering :=
  if left < right then some .lt
  else if left == right then some .eq
  else if left > right then some .gt
  else none

/-- The order of two numbers or of two strings; all other pairs have none. -/
def compare? : Value → Value → Option Ordering
  | .int left, .int right => some (compare left.toInt right.toInt)
  | .string left, .string right => some (compare left right)
  | left, right => do compareFloats? (← left.float?) (← right.float?)

end Value

end NodeQuery
