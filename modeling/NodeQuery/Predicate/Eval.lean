import NodeQuery.Predicate.Parser
import NodeQuery.Regex.Pattern

/-!
# Evaluating predicates

An expression sees a node only through its paths: a `View` says for each path whether it resolves
on the node and to which value.  Everything else is computed from values.
-/

namespace NodeQuery

namespace Predicate

/-- What an operation that rejects its operands is called. -/
inductive Operator where
  | compare (op : CompareOp)
  | index
  deriving Repr, DecidableEq

def Operator.symbol : Operator → String
  | .compare op => op.symbol
  | .index => "[]"

/-- What is wrong with the arguments of a call. -/
inductive CallFault where
  | notOneArgument
  | noLength (kind : String)
  | notOnePath
  deriving Repr, DecidableEq

def CallFault.reason : CallFault → String
  | .notOneArgument => "expected exactly one argument"
  | .noLength kind => kind ++ " has no length"
  | .notOnePath => "expected one attribute path"

end Predicate

/-- Why a predicate has no answer for a node. -/
inductive PredicateError where
  /-- The body of the predicate cannot be read. -/
  | malformed (body : String) (reason : String)
  /-- The path does not resolve on the node. -/
  | unknownAttribute (path : List String)
  | typeMismatch (operator : Predicate.Operator) (left : String) (right : String)
  | invalidPattern (pattern : String) (reason : String)
  | unknownFunction (name : String)
  | invalidCall (name : String) (fault : Predicate.CallFault)
  /-- The body of the predicate nests deeper than the limit. -/
  | tooDeep (limit : Nat)
  deriving Repr, DecidableEq

namespace PredicateError

def message : PredicateError → String
  | .malformed body reason => "malformed predicate `[" ++ body ++ "]`: " ++ reason
  | .unknownAttribute path => "unknown attribute `" ++ ".".intercalate path ++ "`"
  | .typeMismatch operator left right =>
      "cannot apply `" ++ operator.symbol ++ "` to " ++ left ++ " and " ++ right
  | .invalidPattern pattern reason => "invalid regex `" ++ pattern ++ "`: " ++ reason
  | .unknownFunction name => "unknown predicate function `" ++ name ++ "()`"
  | .invalidCall name fault => "invalid call to `" ++ name ++ "()`: " ++ fault.reason
  | .tooDeep limit => "predicate nests deeper than " ++ toString limit ++ " levels"

/-- The error of applying a predicate whose body cannot be read. -/
def ofSyntaxError (body : String) : Predicate.SyntaxError → PredicateError
  | .tooDeep limit => .tooDeep limit
  | error => .malformed body error.message

end PredicateError

namespace Predicate

/-- The value at the end of each path that resolves on a node. -/
abbrev View := List String → Option Value

/-- Compiles a pattern for use in a predicate. -/
def compilePattern (source : String) : Except PredicateError Pattern :=
  (Pattern.compile source).mapError fun error => .invalidPattern source error.message

/-- Patterns that have been compiled before the predicate is applied. -/
abbrev PatternTable := List (String × Except PredicateError Pattern)

namespace PatternTable

/-- Adds a pattern unless the table has it. -/
def insert (table : PatternTable) (source : String) : PatternTable :=
  match table.lookup source with
  | some _ => table
  | none => (source, compilePattern source) :: table

/-- The pattern from the table, or compiled now. -/
def get (table : PatternTable) (source : String) : Except PredicateError Pattern :=
  (table.lookup source).getD (compilePattern source)

end PatternTable

namespace Expr

mutual

/-- Adds the patterns that stand as literals on the right of a pattern operator. -/
def collectPatterns (table : PatternTable) : Expr → PatternTable
  | .literal _ => table
  | .path _ => table
  | .list items => collectPatternsList table items
  | .index target position => collectPatterns (collectPatterns table target) position
  | .call _ args => collectPatternsList table args
  | .not operand => collectPatterns table operand
  | .and left right => collectPatterns (collectPatterns table left) right
  | .or left right => collectPatterns (collectPatterns table left) right
  | .compare op left right =>
      let table :=
        match op.isPattern, right with
        | true, .literal (.string source) => table.insert source
        | _, _ => table
      collectPatterns (collectPatterns table left) right

def collectPatternsList (table : PatternTable) : List Expr → PatternTable
  | [] => table
  | item :: items => collectPatternsList (collectPatterns table item) items

end

/-- The patterns of an expression that do not depend on a node. -/
def patterns (expr : Expr) : PatternTable := expr.collectPatterns []

end Expr

/-- Whether a text has another as a part. -/
def isPart (part : List Char) : (text : List Char) → Bool
  | [] => part.isEmpty
  | char :: text => part.isPrefixOf (char :: text) || isPart part text

/-- Whether an order between two values satisfies an ordering operator. -/
def CompareOp.accepts : CompareOp → Ordering → Bool
  | .lt, order => order.isLT
  | .le, order => order.isLE
  | .gt, order => order.isGT
  | .ge, order => order.isGE
  | _, _ => false

/-- Compares two values. -/
def CompareOp.apply (table : PatternTable) (op : CompareOp) (left right : Value) :
    Except PredicateError Bool :=
  let mismatch : PredicateError := .typeMismatch (.compare op) left.kind right.kind
  let ordered : Except PredicateError Bool :=
    match left.compare? right with
    | some order => .ok (op.accepts order)
    | none => .error mismatch
  let matched (expected : Bool) : Except PredicateError Bool :=
    match left, right with
    | .string text, .string source => do
        let pattern ← table.get source
        .ok (pattern.isMatch text == expected)
    | _, _ => .error mismatch
  match op with
  | .eq => .ok (left.looseEq right)
  | .ne => .ok (!left.looseEq right)
  | .lt => ordered
  | .le => ordered
  | .gt => ordered
  | .ge => ordered
  | .startsWith =>
      match left, right with
      | .string text, .string part => .ok (part.toList.isPrefixOf text.toList)
      | _, _ => .error mismatch
  | .endsWith =>
      match left, right with
      | .string text, .string part => .ok (part.toList.isSuffixOf text.toList)
      | _, _ => .error mismatch
  | .contains =>
      match left, right with
      | .string text, .string part => .ok (isPart part.toList text.toList)
      | .list items, element => .ok (items.any fun item => item.looseEq element)
      | _, _ => .error mismatch
  | .matching => matched true
  | .notMatching => matched false

/-- The element of a list at a position, which counts from the end if it is negative, or the value
of a map at a key.  What is missing is `null`. -/
def indexValue (target position : Value) : Except PredicateError Value :=
  match target, position with
  | .list items, .int position =>
      let position := position.toInt
      let index := if position < 0 then items.length + position else position
      if index < 0 then .ok .null else .ok ((items[index.toNat]?).getD .null)
  | .map entries, .string key => .ok ((entries.lookup key).getD .null)
  | _, _ => .error (.typeMismatch .index target.kind position.kind)

/-- The number of characters or elements of the only argument of `len`. -/
def lengthValue (value : Value) : Except PredicateError Value :=
  match value.length? with
  | some length => .ok (.int (.ofNat length))
  | none => .error (.invalidCall "len" (.noLength value.kind))

namespace Expr

mutual

/-- The value of an expression on the node with the given view. -/
def eval (table : PatternTable) (view : View) : Expr → Except PredicateError Value
  | .literal value => .ok value
  | .path segments =>
      match view segments with
      | some value => .ok value
      | none => .error (.unknownAttribute segments)
  | .list items => do .ok (.list (← evalList table view items))
  | .index target position => do
      let target ← eval table view target
      let position ← eval table view position
      indexValue target position
  | .call "len" [arg] => do lengthValue (← eval table view arg)
  | .call "len" _ => .error (.invalidCall "len" .notOneArgument)
  | .call "has" [.path segments] => .ok (.bool (view segments).isSome)
  | .call "has" _ => .error (.invalidCall "has" .notOnePath)
  | .call name _ => .error (.unknownFunction name)
  | .not operand => do .ok (.bool (!(← eval table view operand).isTruthy))
  | .and left right => do
      let left ← eval table view left
      if left.isTruthy then .ok (.bool (← eval table view right).isTruthy)
      else .ok (.bool false)
  | .or left right => do
      let left ← eval table view left
      if left.isTruthy then .ok (.bool true)
      else .ok (.bool (← eval table view right).isTruthy)
  | .compare op left right => do
      let left ← eval table view left
      let right ← eval table view right
      .ok (.bool (← op.apply table left right))

/-- The values of expressions, or the first error. -/
def evalList (table : PatternTable) (view : View) : List Expr → Except PredicateError (List Value)
  | [] => .ok []
  | item :: items => do
      let value ← eval table view item
      .ok (value :: (← evalList table view items))

end

end Expr

/-- A predicate that has been read before it is applied.  A body that cannot be read is an error
only where the predicate is applied. -/
structure Compiled where
  body : String
  expr : Except SyntaxError Expr
  patterns : PatternTable

namespace Compiled

/-- Reads a predicate that may nest `limit` levels deep. -/
def ofBody (body : String) (limit : Nat) : Compiled :=
  match parse body limit with
  | .ok expr => ⟨body, .ok expr, expr.patterns⟩
  | .error error => ⟨body, .error error, []⟩

/-- Whether the node with the given view satisfies the predicate. -/
def matches? (predicate : Compiled) (view : View) : Except PredicateError Bool :=
  match predicate.expr with
  | .error error => .error (.ofSyntaxError predicate.body error)
  | .ok expr => do .ok (← expr.eval predicate.patterns view).isTruthy

end Compiled

end Predicate

end NodeQuery
