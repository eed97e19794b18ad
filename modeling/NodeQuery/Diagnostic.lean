import NodeQuery.Source

/-!
# Diagnostics

A diagnostic is an error that is ready to be shown: its wording, the range of the source text it
is about, and the line and column where that range starts.
-/

namespace NodeQuery

/-- An error message tied to a range of its source text. -/
structure Diagnostic where
  message : String
  span : Span
  line : Nat
  column : Nat
  deriving Repr, DecidableEq, Inhabited

/-- The message followed by its line and column. -/
def Diagnostic.summary (diagnostic : Diagnostic) : String :=
  diagnostic.message ++ " at " ++ toString diagnostic.line ++ ":" ++ toString diagnostic.column

end NodeQuery
