import NodeQuery.Regex.Meaning
import NodeQuery.Regex.Parser
import NodeQuery.Regex.Subset

/-!
# Compiled patterns
-/

namespace NodeQuery

/-- Why a pattern is not compiled. -/
inductive PatternError where
  /-- Its text is no pattern. -/
  | malformed (fault : Regex.Fault)
  /-- It has no meaning, or its automaton would be too large. -/
  | noAutomaton
  /-- Its automaton cannot be made deterministic. -/
  | size (fault : Regex.SizeFault)
  deriving Repr, DecidableEq

def PatternError.message : PatternError → String
  | .malformed fault => fault.message
  | .noAutomaton => "error building NFA"
  | .size .unicodeBoundary =>
      "unsupported regex feature for DFAs: cannot build DFAs for regexes with Unicode word " ++
        "boundaries; switch to ASCII word boundaries, or heuristically enable Unicode word " ++
        "boundaries or use a different regex engine"
  | .size .automaton =>
      "DFA exceeded size limit of " ++ toString Regex.constructionLimit ++ " during determinization"
  | .size .construction =>
      "determinization exceeded size limit of " ++ toString Regex.constructionLimit

/-- A pattern that can be looked for in texts. -/
structure Pattern where
  source : String
  automaton : Regex.Automaton
  deriving Inhabited

namespace Pattern

/-- Compiles a pattern. -/
def compile (source : String) : Except PatternError Pattern := do
  let ast ← (Regex.Ast.parse source.toList).mapError .malformed
  match ast.expr?.bind Regex.Expr.automaton? with
  | none => .error .noAutomaton
  | some automaton =>
      automaton.checkSize.mapError .size
      .ok ⟨source, automaton⟩

/-- Whether a part of a text matches. -/
def isMatch (pattern : Pattern) (text : String) : Bool :=
  pattern.automaton.matchesIn text.toList

end Pattern

end NodeQuery
