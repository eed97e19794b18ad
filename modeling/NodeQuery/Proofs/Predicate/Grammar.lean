import NodeQuery.Predicate.Token

/-!
# The grammar of predicates

Each nonterminal is a relation between a row of lexemes, what it stands for and how deep it nests.
The nesting counts, on the deepest way into a row, the expressions between brackets and the
negations; the whole text is an expression too.  Repetitions grow at their ends, in the order in
which a text is read.
-/

namespace NodeQuery.Predicate.Grammar

/-- The ways to write `or`. -/
inductive OrSign : Lexeme → Prop where
  | word : OrSign .orWord
  | sign : OrSign .orSign

/-- The ways to write `and`. -/
inductive AndSign : Lexeme → Prop where
  | word : AndSign .andWord
  | sign : AndSign .andSign

/-- The ways to write `not`. -/
inductive NotSign : Lexeme → Prop where
  | word : NotSign .notWord
  | sign : NotSign .notSign

/-- The lexemes that stand for a value.  An integer has to fit in 64 bits. -/
inductive Literal : Lexeme → Value → Prop where
  | true : Literal .trueWord (.bool true)
  | false : Literal .falseWord (.bool false)
  | null : Literal .nullWord .null
  | int {value : Int} (small : -Int.pow 2 63 ≤ value ∧ value < Int.pow 2 63) :
      Literal (.int value) (.int (.ofInt value))
  | float (digits : String) :
      Literal (.float digits) (.float ((Decimal.float? digits.toList).getD 0.0))
  | string (value : String) : Literal (.string value) (.string value)

/-- Names with a point between each two. -/
inductive Path : List Lexeme → List String → Prop where
  | one (name : String) : Path [.name name] [name]
  | more {lexemes : List Lexeme} {segments : List String} (path : Path lexemes segments)
      (name : String) : Path (lexemes ++ [.dot, .name name]) (segments ++ [name])

mutual

/-- The whole text, or what stands between brackets or commas. -/
inductive Expression : List Lexeme → Expr → Nat → Prop where
  | nested {lexemes : List Lexeme} {expr : Expr} {nesting : Nat}
      (disjunction : Disjunction lexemes expr nesting) : Expression lexemes expr (nesting + 1)

inductive Disjunction : List Lexeme → Expr → Nat → Prop where
  | one {lexemes : List Lexeme} {expr : Expr} {nesting : Nat}
      (conjunction : Conjunction lexemes expr nesting) : Disjunction lexemes expr nesting
  | more {left right : List Lexeme} {sign : Lexeme} {disjunct expr : Expr}
      {leftNesting rightNesting : Nat} (before : Disjunction left disjunct leftNesting)
      (joint : OrSign sign) (behind : Conjunction right expr rightNesting) :
      Disjunction (left ++ sign :: right) (.or disjunct expr) (max leftNesting rightNesting)

inductive Conjunction : List Lexeme → Expr → Nat → Prop where
  | one {lexemes : List Lexeme} {expr : Expr} {nesting : Nat}
      (negation : Negation lexemes expr nesting) : Conjunction lexemes expr nesting
  | more {left right : List Lexeme} {sign : Lexeme} {conjunct expr : Expr}
      {leftNesting rightNesting : Nat} (before : Conjunction left conjunct leftNesting)
      (joint : AndSign sign) (behind : Negation right expr rightNesting) :
      Conjunction (left ++ sign :: right) (.and conjunct expr) (max leftNesting rightNesting)

inductive Negation : List Lexeme → Expr → Nat → Prop where
  | none {lexemes : List Lexeme} {expr : Expr} {nesting : Nat}
      (comparison : Comparison lexemes expr nesting) : Negation lexemes expr nesting
  | not {lexemes : List Lexeme} {sign : Lexeme} {operand : Expr} {nesting : Nat}
      (symbol : NotSign sign) (negation : Negation lexemes operand nesting) :
      Negation (sign :: lexemes) (.not operand) (nesting + 1)

/-- A comparison has one operator at most. -/
inductive Comparison : List Lexeme → Expr → Nat → Prop where
  | none {lexemes : List Lexeme} {expr : Expr} {nesting : Nat}
      (indexing : Indexing lexemes expr nesting) : Comparison lexemes expr nesting
  | compare {left right : List Lexeme} {leftExpr rightExpr : Expr}
      {leftNesting rightNesting : Nat} (before : Indexing left leftExpr leftNesting)
      (op : CompareOp) (behind : Indexing right rightExpr rightNesting) :
      Comparison (left ++ .compare op :: right) (.compare op leftExpr rightExpr)
        (max leftNesting rightNesting)

/-- An operand with the positions at which it is indexed. -/
inductive Indexing : List Lexeme → Expr → Nat → Prop where
  | none {lexemes : List Lexeme} {expr : Expr} {nesting : Nat}
      (operand : Operand lexemes expr nesting) : Indexing lexemes expr nesting
  | index {left inner : List Lexeme} {target position : Expr} {leftNesting innerNesting : Nat}
      (before : Indexing left target leftNesting)
      (inside : Expression inner position innerNesting) :
      Indexing (left ++ .openBracket :: (inner ++ [.closeBracket])) (.index target position)
        (max leftNesting innerNesting)

inductive Operand : List Lexeme → Expr → Nat → Prop where
  | literal {lexeme : Lexeme} {value : Value} (literal : Literal lexeme value) :
      Operand [lexeme] (.literal value) 0
  | path {lexemes : List Lexeme} {segments : List String} (path : Path lexemes segments) :
      Operand lexemes (.path segments) 0
  | call {lexemes : List Lexeme} {args : List Expr} {nesting : Nat} (name : String)
      (items : Items lexemes args nesting) :
      Operand (.name name :: .openParen :: (lexemes ++ [.closeParen])) (.call name args) nesting
  | parenthesis {lexemes : List Lexeme} {expr : Expr} {nesting : Nat}
      (inside : Expression lexemes expr nesting) :
      Operand (.openParen :: (lexemes ++ [.closeParen])) expr nesting
  | list {lexemes : List Lexeme} {exprs : List Expr} {nesting : Nat}
      (items : Items lexemes exprs nesting) :
      Operand (.openBracket :: (lexemes ++ [.closeBracket])) (.list exprs) nesting

/-- Elements of a list or arguments of a call, possibly none. -/
inductive Items : List Lexeme → List Expr → Nat → Prop where
  | none : Items [] [] 0
  | some {lexemes : List Lexeme} {exprs : List Expr} {nesting : Nat}
      (elements : Elements lexemes exprs nesting) : Items lexemes exprs nesting

/-- Expressions with a comma between each two. -/
inductive Elements : List Lexeme → List Expr → Nat → Prop where
  | one {lexemes : List Lexeme} {expr : Expr} {nesting : Nat}
      (expression : Expression lexemes expr nesting) : Elements lexemes [expr] nesting
  | more {left right : List Lexeme} {exprs : List Expr} {expr : Expr}
      {leftNesting rightNesting : Nat} (before : Elements left exprs leftNesting)
      (behind : Expression right expr rightNesting) :
      Elements (left ++ .comma :: right) (exprs ++ [expr]) (max leftNesting rightNesting)

end

end NodeQuery.Predicate.Grammar
