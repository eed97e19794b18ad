import NodeQuery.Decimal.Text
import NodeQuery.Text.Quoted
import NodeQuery.Value.Basic

/-!
# Printed values
-/

namespace NodeQuery.Value

mutual

/-- A value as it is written in a predicate; maps, which predicates cannot write, stand in
braces. -/
def text : Value → String
  | .null => "null"
  | .bool value => if value then "true" else "false"
  | .int value => toString value.toInt
  | .float value => Decimal.floatText Decimal.valueLayout value
  | .string value => Quoted.encode value
  | .list items => "[" ++ ", ".intercalate (texts items) ++ "]"
  | .map entries => "\x7b" ++ ", ".intercalate (entryTexts entries) ++ "\x7d"

def texts : List Value → List String
  | [] => []
  | item :: items => text item :: texts items

def entryTexts : List (String × Value) → List String
  | [] => []
  | (key, value) :: entries => (Quoted.encode key ++ ": " ++ text value) :: entryTexts entries

end

end NodeQuery.Value
