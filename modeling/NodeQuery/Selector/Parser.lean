import NodeQuery.Selector.Error

/-!
# Reading selectors

The parser is a machine that takes one token at a time.  Its state holds the finished groups, the
operations of the open group and what the last tokens demand of the next one (`Mode`).  A token
that the state does not admit is an error at that token, whatever follows it.
-/

namespace NodeQuery.Selector

/-- What the tokens read so far demand of the next one. -/
inductive Mode where
  /-- Nothing of the group has been read. -/
  | start
  /-- Between two steps, joined by the given combinator if another step follows. -/
  | gap (pending : Combinator)
  /-- Behind an operation of a step. -/
  | step
  /-- Behind `*`, which ends its step. -/
  | star
  /-- Behind `#`, `.` or `:`, which need a name. -/
  | sigil (sigil : Sigil)
  /-- Behind `:name`, which is a function if arguments follow. -/
  | colonName (name : String)
  deriving Repr, DecidableEq, Inhabited

/-- What has been read of a selector. -/
structure State where
  /-- The finished groups, the latest first. -/
  groups : List Group
  /-- The operations of the open group, the latest first. -/
  operations : List Operation
  mode : Mode
  deriving Repr, DecidableEq, Inhabited

namespace State

/-- Nothing read yet. -/
def initial : State := ⟨[], [], .start⟩

/-- Adds an operation to the open group. -/
def push (state : State) (operation : Operation) (mode : Mode) : State :=
  ⟨state.groups, operation :: state.operations, mode⟩

/-- The explicit combinator that still needs a step, if there is one. -/
def dangling? (state : State) : Option Combinator :=
  match state.mode with
  | .gap .descendant => none
  | .gap link => some link
  | _ => none

/-- The state as it is once the next token is known not to belong to the last operation: a name
behind a colon becomes a pseudo-selector. -/
def settle (state : State) : State :=
  match state.mode with
  | .colonName name => state.push (.pseudo name) .step
  | _ => state

/-- The state in front of a new operation: a combinator that was pending becomes part of the
group. -/
def join (state : State) : State :=
  match state.mode with
  | .gap link => state.push (.combinator link) .step
  | _ => state

/-- Closes the open group. -/
def closeGroup (state : State) : State :=
  ⟨⟨state.operations.reverse⟩ :: state.groups, [], .start⟩

/-- Takes a comma, behind a settled state. -/
def comma (state : State) : Except Expectation State :=
  match state.mode, state.dangling? with
  | .start, _ => .error .selector
  | _, some link => .error (.stepAfter link)
  | _, none => .ok state.closeGroup

/-- Takes an explicit combinator, behind a settled state. -/
def explicit (state : State) (link : Combinator) : Except Expectation State :=
  match state.mode, state.dangling? with
  | .start, _ => .error .selector
  | _, some _ => .error .selector
  | _, none => .ok { state with mode := .gap link }

/-- Takes a run of blanks, behind a settled state. -/
def blank (state : State) : State :=
  match state.mode with
  | .start | .gap _ => state
  | _ => { state with mode := .gap .descendant }

/-- Takes one lexeme, or says what is wrong with it. -/
def advance (state : State) (lexeme : Lexeme) : Except SyntaxError.Cause State :=
  let unexpected (expectation : Expectation) : SyntaxError.Cause :=
    .expected expectation (some lexeme)
  match state.mode, lexeme with
  | .sigil .hash, .name name => .ok (state.push (.id name) .step)
  | .sigil .dot, .name name => .ok (state.push (.class name) .step)
  | .sigil .colon, .name name => .ok { state with mode := .colonName name }
  | .sigil sigil, _ => .error (unexpected (.nameAfter sigil))
  | .colonName name, .arguments args => .ok (state.push (.function name args) .step)
  | _, .blank _ => .ok state.settle.blank
  | _, .comma => state.settle.comma.mapError unexpected
  | _, .greater => (state.settle.explicit .child).mapError unexpected
  | _, .tilde => (state.settle.explicit .sibling).mapError unexpected
  | _, .plus => (state.settle.explicit .adjacent).mapError unexpected
  | .star, _ => .error (unexpected .endAfterStar)
  | _, .arguments _ => .error .strayArguments
  | _, .star => .ok (state.settle.join.push .any .star)
  | _, .name name => .ok (state.settle.join.push (.tag name) .step)
  | _, .predicate body => .ok (state.settle.join.push (.predicate body) .step)
  | _, .hash => .ok { state.settle.join with mode := .sigil .hash }
  | _, .dot => .ok { state.settle.join with mode := .sigil .dot }
  | _, .colon => .ok { state.settle.join with mode := .sigil .colon }

/-- Takes one token; what is wrong is wrong at the token. -/
def take (state : State) (token : Token) : Except SyntaxError State :=
  (state.advance token.lexeme).mapError fun cause => .atToken cause token

/-- The selector that has been read when the text ends. -/
def finish (state : State) : Except Expectation Selector :=
  match state.mode, state.dangling? with
  | .sigil sigil, _ => .error (.nameAfter sigil)
  | .start, _ =>
      match state.groups with
      | [] => .ok ⟨[]⟩
      | _ :: _ => .error .groupAfterComma
  | _, some link => .error (.stepAfter link)
  | _, none => .ok ⟨state.settle.closeGroup.groups.reverse⟩

end State

/-- Reads a row of tokens behind which the text ends at `last`. -/
def ofTokens (last : Place) (tokens : List Token) : Except SyntaxError Selector := do
  let state ← tokens.foldlM State.take State.initial
  state.finish.mapError fun expectation => .atEnd (.expected expectation none) last

/-- Reads a selector text. -/
def parse (source : String) : Except SyntaxError Selector := do
  let tokens ← (Token.list source).mapError SyntaxError.ofLexical
  ofTokens (Place.origin.after source.toList) tokens

end NodeQuery.Selector
