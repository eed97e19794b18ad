import NodeQuery.Value.Text

/-!
# Predicate expressions

The body of a predicate is an expression over literals, attribute paths, comparisons and boolean
connectives, with lists, indexing and calls.  Its printed form puts every compound expression in
parentheses.
-/

namespace NodeQuery.Predicate

/-- The comparison operators. -/
inductive CompareOp where
  | eq
  | ne
  | lt
  | le
  | gt
  | ge
  /-- Whether a string starts with another. -/
  | startsWith
  /-- Whether a string ends with another. -/
  | endsWith
  /-- Whether a string has another as a part, or a list a value as an element. -/
  | contains
  /-- Whether a pattern matches somewhere in a string. -/
  | matching
  /-- Whether a pattern matches nowhere in a string. -/
  | notMatching
  deriving Repr, DecidableEq, Inhabited

namespace CompareOp

def symbol : CompareOp → String
  | .eq => "=="
  | .ne => "!="
  | .lt => "<"
  | .le => "<="
  | .gt => ">"
  | .ge => ">="
  | .startsWith => "^="
  | .endsWith => "$="
  | .contains => "*="
  | .matching => "=~"
  | .notMatching => "!~"

/-- Whether the right side of the operator is a pattern. -/
def isPattern : CompareOp → Bool
  | .matching | .notMatching => true
  | _ => false

/-- Whether the operator asks for an order. -/
def isOrdering : CompareOp → Bool
  | .lt | .le | .gt | .ge => true
  | _ => false

end CompareOp

/-- A predicate expression. -/
inductive Expr where
  | literal (value : Value)
  /-- Attributes to follow one after the other, starting at the candidate node. -/
  | path (segments : List String)
  | list (items : List Expr)
  | index (target : Expr) (position : Expr)
  | call (name : String) (args : List Expr)
  | not (operand : Expr)
  | and (left : Expr) (right : Expr)
  | or (left : Expr) (right : Expr)
  | compare (op : CompareOp) (left : Expr) (right : Expr)
  deriving Inhabited

namespace Expr

mutual

/-- The expression as it is written in a predicate. -/
def text : Expr → String
  | .literal value => value.text
  | .path segments => ".".intercalate segments
  | .list items => "[" ++ ", ".intercalate (texts items) ++ "]"
  | .index target position => text target ++ "[" ++ text position ++ "]"
  | .call name args => name ++ "(" ++ ", ".intercalate (texts args) ++ ")"
  | .not operand => "(not " ++ text operand ++ ")"
  | .and left right => "(" ++ text left ++ " and " ++ text right ++ ")"
  | .or left right => "(" ++ text left ++ " or " ++ text right ++ ")"
  | .compare op left right => "(" ++ text left ++ " " ++ op.symbol ++ " " ++ text right ++ ")"

def texts : List Expr → List String
  | [] => []
  | item :: items => text item :: texts items

end

mutual

/-- Whether two expressions have the same form and strictly equal literals. -/
def same : Expr → Expr → Bool
  | .literal left, .literal right => left.strictEq right
  | .path left, .path right => left == right
  | .list left, .list right => sameList left right
  | .index target position, .index otherTarget otherPosition =>
      same target otherTarget && same position otherPosition
  | .call name args, .call otherName otherArgs => name == otherName && sameList args otherArgs
  | .not left, .not right => same left right
  | .and left right, .and otherLeft otherRight => same left otherLeft && same right otherRight
  | .or left right, .or otherLeft otherRight => same left otherLeft && same right otherRight
  | .compare op left right, .compare otherOp otherLeft otherRight =>
      op == otherOp && same left otherLeft && same right otherRight
  | _, _ => false

def sameList : List Expr → List Expr → Bool
  | [], [] => true
  | left :: lefts, right :: rights => same left right && sameList lefts rights
  | _, _ => false

end

end Expr

end NodeQuery.Predicate
