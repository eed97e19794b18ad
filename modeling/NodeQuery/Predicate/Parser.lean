import NodeQuery.Predicate.Token

/-!
# Reading predicates

The parser is a machine that takes one token at a time.  Every open bracket has a `Level`: the left
operands that wait there for their right ones, at most one for each of `or`, `and` and comparison,
and the number of negations in front of the operand.  Enclosing levels stand on a stack.  A token
that the state does not admit is an error at that token, whatever follows it.

The nesting of a state counts its levels and their negations.  Opening a level or a negation beyond
the limit is an error of its own kind.
-/

namespace NodeQuery.Predicate

/-- What would have been acceptable where an error is found. -/
inductive Expectation where
  /-- Any expression, in an empty text. -/
  | expression
  | operand
  /-- An integer that fits in 64 bits. -/
  | smallInteger
  | attributeName
  | closeParen
  | closeBracket
  /-- The end of a list or its next element. -/
  | listEnd
  /-- The end of an argument list or its next argument. -/
  | argumentsEnd
  | endOfText
  deriving Repr, DecidableEq, Inhabited

def Expectation.description : Expectation → String
  | .expression => "expected expression"
  | .operand => "expected operand"
  | .smallInteger => "integer literal out of range"
  | .attributeName => "expected attribute name after `.`"
  | .closeParen => "expected `)`"
  | .closeBracket => "expected `]`"
  | .listEnd => "expected `,` or `]`"
  | .argumentsEnd => "expected `,` or `)`"
  | .endOfText => "expected end of expression"

/-- Why a predicate cannot be read.  Offsets count bytes of the predicate's text. -/
inductive SyntaxError where
  /-- No lexeme starts with the character. -/
  | unexpected (char : Char) (offset : Nat)
  /-- A lexeme, or the end of the text, stands where something else is required. -/
  | expected (expectation : Expectation) (found : Option Lexeme) (offset : Nat)
  /-- The expression nests deeper than the limit. -/
  | tooDeep (limit : Nat)
  deriving Repr, DecidableEq

namespace SyntaxError

/-- What is malformed, and at which offset; nothing if the expression only nests too deep. -/
def malformed? : SyntaxError → Option (String × Nat)
  | .unexpected char offset =>
      some ("unexpected character `" ++ String.singleton char ++ "`", offset)
  | .expected expectation found offset =>
      some (expectation.description ++ ", found " ++
        (match found with
          | some lexeme => lexeme.description
          | none => "end of input"), offset)
  | .tooDeep _ => none

def message (error : SyntaxError) : String :=
  match error, error.malformed? with
  | _, some (reason, offset) => reason ++ " at offset " ++ toString offset
  | .tooDeep limit, _ => "expression nested deeper than " ++ toString limit ++ " levels"
  | _, none => ""

end SyntaxError

/-- What waits for its right operand between two brackets. -/
structure Level where
  /-- The left operand of an open `or`. -/
  disjunct : Option Expr
  /-- The left operand of an open `and`. -/
  conjunct : Option Expr
  /-- The negations in front of the operand that is being read. -/
  negations : Nat
  /-- The left operand of an open comparison, and its operator. -/
  comparison : Option (Expr × CompareOp)
  deriving Inhabited

namespace Level

/-- Nothing waits. -/
def fresh : Level := ⟨none, none, 0, none⟩

/-- An operand together with the comparison that waits for it. -/
def compared (level : Level) (operand : Expr) : Expr :=
  match level.comparison with
  | some (left, op) => .compare op left operand
  | none => operand

/-- Puts negations around an expression. -/
def negate : Nat → Expr → Expr
  | 0, operand => operand
  | count + 1, operand => .not (negate count operand)

/-- An operand together with its comparison and its negations. -/
def negated (level : Level) (operand : Expr) : Expr :=
  negate level.negations (level.compared operand)

/-- An operand together with all that binds tighter than `or`. -/
def conjoined (level : Level) (operand : Expr) : Expr :=
  match level.conjunct with
  | some left => .and left (level.negated operand)
  | none => level.negated operand

/-- The expression that an operand completes. -/
def value (level : Level) (operand : Expr) : Expr :=
  match level.disjunct with
  | some left => .or left (level.conjoined operand)
  | none => level.conjoined operand

/-- The level behind an operand and `and`. -/
def andThen (level : Level) (operand : Expr) : Level :=
  ⟨level.disjunct, some (level.conjoined operand), 0, none⟩

/-- The level behind an operand and `or`. -/
def orThen (level : Level) (operand : Expr) : Level :=
  ⟨some (level.value operand), none, 0, none⟩

/-- How much the level adds to the nesting. -/
def depth (level : Level) : Nat := level.negations + 1

end Level

/-- What an open bracket encloses. -/
inductive Bracket where
  | parenthesis
  /-- The position of an index into the given target. -/
  | index (target : Expr)
  /-- An element of a list; the elements in front of it, the latest first. -/
  | list (items : List Expr)
  /-- An argument of a call; the arguments in front of it, the latest first. -/
  | call (name : String) (args : List Expr)
  deriving Inhabited

namespace Bracket

/-- What has to follow an expression inside the bracket. -/
def expectation : Bracket → Expectation
  | .parenthesis => .closeParen
  | .index _ => .closeBracket
  | .list _ => .listEnd
  | .call _ _ => .argumentsEnd

/-- The operand that the bracket makes if the lexeme closes it behind `last`. -/
def close? : Bracket → Lexeme → (last : Expr) → Option Expr
  | .parenthesis, .closeParen, last => some last
  | .index target, .closeBracket, last => some (.index target last)
  | .list items, .closeBracket, last => some (.list (last :: items).reverse)
  | .call name args, .closeParen, last => some (.call name (last :: args).reverse)
  | _, _, _ => none

/-- The bracket of a list or call that goes on behind the element `last`. -/
def next? : Bracket → (last : Expr) → Option Bracket
  | .list items, last => some (.list (last :: items))
  | .call name args, last => some (.call name (last :: args))
  | _, _ => none

/-- The operand that the bracket makes if the lexeme closes it at once. -/
def closeEmpty? : Bracket → Lexeme → Option Expr
  | .list _, .closeBracket => some (.list [])
  | .call name _, .closeParen => some (.call name [])
  | _, _ => none

end Bracket

/-- What the tokens read so far demand of the next one. -/
inductive Mode where
  /-- An operand has to follow. -/
  | operand
  /-- Behind an operand. -/
  | value (operand : Expr)
  /-- Behind a name that starts an operand: a call or a path. -/
  | name (name : String)
  /-- Behind a path of several segments, the latest first. -/
  | path (segments : List String)
  /-- Behind a path, the latest segment first, and a point. -/
  | dot (segments : List String)
  /-- Behind the opening of a list or an argument list, which may close at once. -/
  | opened (bracket : Bracket)
  deriving Inhabited

/-- What has been read of a predicate. -/
structure State where
  mode : Mode
  /-- The innermost open level. -/
  level : Level
  /-- The open brackets, innermost first, each with the level around it. -/
  stack : List (Bracket × Level)
  deriving Inhabited

namespace State

/-- Nothing read yet; the level of the whole text is open. -/
def initial : State := ⟨.operand, .fresh, []⟩

/-- The number of open levels and negations. -/
def depth (state : State) : Nat :=
  state.level.depth + state.stack.foldr (fun (_, level) rest => level.depth + rest) 0

/-- Opens one more level inside a bracket, if the limit allows it. -/
def enter (limit : Nat) (state : State) (bracket : Bracket) : Except SyntaxError State :=
  if limit ≤ state.depth then .error (.tooDeep limit)
  else .ok ⟨.operand, .fresh, (bracket, state.level) :: state.stack⟩

/-- The operand behind which the state is, if it is behind one. -/
def operand? (state : State) : Option Expr :=
  match state.mode with
  | .value operand => some operand
  | .name name => some (.path [name])
  | .path segments => some (.path segments.reverse)
  | _ => none

/-- What has to follow an operand. -/
def expectation (state : State) : Expectation :=
  match state.stack with
  | [] => .endOfText
  | (bracket, _) :: _ => bracket.expectation

/-- The state behind an operand. -/
def withOperand (state : State) (operand : Expr) : State :=
  ⟨.value operand, state.level, state.stack⟩

/-- The state with another level that waits for an operand. -/
def await (state : State) (level : Level) : State :=
  ⟨.operand, level, state.stack⟩

/-- Takes a token where an operand has to stand. -/
def takeOperand (limit : Nat) (state : State) (token : Token) : Except SyntaxError State :=
  let unexpected (expectation : Expectation) : SyntaxError :=
    .expected expectation (some token.lexeme) token.start
  let negate : Except SyntaxError State :=
    match state.level.comparison with
    | some _ => .error (unexpected .operand)
    | none =>
        if limit ≤ state.depth then .error (.tooDeep limit)
        else .ok (state.await { state.level with negations := state.level.negations + 1 })
  match token.lexeme with
  | .notWord => negate
  | .notSign => negate
  | .trueWord => .ok (state.withOperand (.literal (.bool true)))
  | .falseWord => .ok (state.withOperand (.literal (.bool false)))
  | .nullWord => .ok (state.withOperand (.literal .null))
  | .int value =>
      if -Int.pow 2 63 ≤ value ∧ value < Int.pow 2 63 then
        .ok (state.withOperand (.literal (.int (.ofInt value))))
      else .error (unexpected .smallInteger)
  | .float digits =>
      .ok (state.withOperand (.literal (.float ((Decimal.float? digits.toList).getD 0.0))))
  | .string value => .ok (state.withOperand (.literal (.string value)))
  | .name name => .ok { state with mode := .name name }
  | .openParen => state.enter limit .parenthesis
  | .openBracket => .ok { state with mode := .opened (.list []) }
  | _ => .error (unexpected .operand)

/-- Takes a token behind an operand. -/
def takeBehind (limit : Nat) (state : State) (operand : Expr) (token : Token) :
    Except SyntaxError State :=
  let unexpected : SyntaxError :=
    .expected state.expectation (some token.lexeme) token.start
  match token.lexeme with
  | .openBracket => state.enter limit (.index operand)
  | .andWord => .ok (state.await (state.level.andThen operand))
  | .andSign => .ok (state.await (state.level.andThen operand))
  | .orWord => .ok (state.await (state.level.orThen operand))
  | .orSign => .ok (state.await (state.level.orThen operand))
  | .compare op =>
      match state.level.comparison with
      | some _ => .error unexpected
      | none => .ok (state.await { state.level with comparison := some (operand, op) })
  | lexeme =>
      match state.stack with
      | [] => .error unexpected
      | (bracket, outer) :: stack =>
          let last := state.level.value operand
          match bracket.close? lexeme last, bracket.next? last with
          | some closed, _ => .ok ⟨.value closed, outer, stack⟩
          | none, some bracket =>
              if lexeme = .comma then .ok ⟨.operand, .fresh, (bracket, outer) :: stack⟩
              else .error unexpected
          | none, none => .error unexpected

/-- Takes one token. -/
def take (limit : Nat) (state : State) (token : Token) : Except SyntaxError State :=
  match state.mode, token.lexeme with
  | .operand, _ => state.takeOperand limit token
  | .value operand, _ => state.takeBehind limit operand token
  | .name name, .openParen => .ok { state with mode := .opened (.call name []) }
  | .name name, .dot => .ok { state with mode := .dot [name] }
  | .name name, _ => state.takeBehind limit (.path [name]) token
  | .path segments, .dot => .ok { state with mode := .dot segments }
  | .path segments, _ => state.takeBehind limit (.path segments.reverse) token
  | .dot segments, .name name => .ok { state with mode := .path (name :: segments) }
  | .dot _, lexeme => .error (.expected .attributeName (some lexeme) token.start)
  | .opened bracket, lexeme =>
      match bracket.closeEmpty? lexeme with
      | some operand => .ok (state.withOperand operand)
      | none => do
          let inner ← state.enter limit bracket
          inner.takeOperand limit token

/-- The expression that has been read when the text ends at the given offset. -/
def finish (limit : Nat) (state : State) (offset : Nat) : Except SyntaxError Expr :=
  match state.mode, state.operand? with
  | .opened bracket, _ => do
      let _ ← state.enter limit bracket
      .error (.expected .operand none offset)
  | .dot _, _ => .error (.expected .attributeName none offset)
  | _, none => .error (.expected .operand none offset)
  | _, some operand =>
      match state.stack with
      | [] => .ok (state.level.value operand)
      | _ :: _ => .error (.expected state.expectation none offset)

end State

/-- Reads a row of tokens behind which the text ends at the given offset. -/
def Expr.ofTokens (limit : Nat) (offset : Nat) (tokens : List Token) : Except SyntaxError Expr :=
  if tokens.isEmpty then .error (.expected .expression none offset)
  else if limit = 0 then .error (.tooDeep 0)
  else do
    let state ← tokens.foldlM (State.take limit) State.initial
    state.finish limit offset

/-- How deep predicates may nest if nothing else is asked for. -/
def defaultNesting : Nat := 64

/-- Reads a predicate that nests at most `limit` levels deep. -/
def parse (source : String) (limit : Nat) : Except SyntaxError Expr := do
  let tokens ← (Token.list source).mapError fun error => .unexpected error.char error.offset
  Expr.ofTokens limit (Utf8.size source.toList) tokens

end NodeQuery.Predicate
