import NodeQuery.Predicate.Eval
import NodeQuery.Selector.Error

/-!
# Errors of queries
-/

namespace NodeQuery

/-- Why a well-formed selector cannot be run, or has no answer on the given nodes. -/
inductive QueryError where
  | unknownPseudo (name : String)
  | unknownFunction (name : String)
  /-- The combinator can be written but not run. -/
  | unsupportedCombinator (link : Combinator)
  | invalidArgument (function : String) (args : String) (reason : String)
  /-- A walk came to children beyond the depth limit. -/
  | depthLimitExceeded (limit : Nat)
  deriving Repr, DecidableEq

def QueryError.message : QueryError → String
  | .unknownPseudo name => "unknown pseudo-selector `:" ++ name ++ "`"
  | .unknownFunction name => "unknown function `:" ++ name ++ "()`"
  | .unsupportedCombinator link => "unsupported combinator `" ++ link.symbol ++ "`"
  | .invalidArgument function args reason =>
      "invalid argument `" ++ args ++ "` for `:" ++ function ++ "()`: " ++ reason
  | .depthLimitExceeded limit =>
      "descendant traversal exceeded the depth limit of " ++ toString limit

/-- Why a query has no answer. -/
inductive Error where
  | selector (error : Selector.SyntaxError)
  | query (error : QueryError)
  | predicate (error : PredicateError)
  deriving Repr, DecidableEq

def Error.message : Error → String
  | .selector error => error.diagnostic.summary
  | .query error => error.message
  | .predicate error => error.message

end NodeQuery
