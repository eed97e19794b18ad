import NodeQuery.Proofs.Outcome
import NodeQuery.Proofs.Selector.Grammar
import NodeQuery.Selector.Parser

/-!
# Derivations drive the parser

The machine that reads a selector follows a derivation: each nonterminal has a lemma that says to
which state its lexemes lead.  So the machine accepts what the grammar derives.
-/

namespace NodeQuery.Selector

open Grammar

namespace State

/-- A test can follow. -/
def Free (state : State) : Prop :=
  match state.mode with
  | .sigil _ | .star => False
  | _ => True

/-- The mode behind a test. -/
def modeBehind : Operation → Mode
  | .any => .star
  | _ => .step

/-- The operations in front of a test that follows. -/
def front (state : State) : List Operation := state.settle.join.operations

/-- At least one step has been read, and no combinator but a blank behind the last one. -/
inductive Behind : State → List Group → List Operation → Prop where
  | step {groups : List Group} {operations : List Operation} :
      Behind ⟨groups, operations, .step⟩ groups operations
  | star {groups : List Group} {operations : List Operation} :
      Behind ⟨groups, operations, .star⟩ groups operations
  | colonName {groups : List Group} {operations : List Operation} {name : String} :
      Behind ⟨groups, operations, .colonName name⟩ groups (.pseudo name :: operations)
  | blank {groups : List Group} {operations : List Operation} :
      Behind ⟨groups, operations, .gap .descendant⟩ groups operations

@[simp] theorem settle_groups (state : State) : state.settle.groups = state.groups := by
  rcases state with ⟨groups, operations, mode⟩
  cases mode <;> rfl

@[simp] theorem join_groups (state : State) : state.join.groups = state.groups := by
  rcases state with ⟨groups, operations, mode⟩
  cases mode <;> rfl

@[simp] theorem blank_groups (state : State) : state.blank.groups = state.groups := by
  rcases state with ⟨groups, operations, mode⟩
  cases mode <;> rfl

@[simp] theorem push_groups (state : State) (operation : Operation) (mode : Mode) :
    (state.push operation mode).groups = state.groups := rfl

/-- Reading the row leads from one state to the other. -/
def Reads (state : State) (lexemes : List Lexeme) (final : State) : Prop :=
  lexemes.foldlM advance state = .ok final

theorem reads_nil {state final : State} : state.Reads [] final ↔ state = final :=
  foldlM_nil_eq_ok

theorem reads_cons {state final : State} {lexeme : Lexeme} {lexemes : List Lexeme} :
    state.Reads (lexeme :: lexemes) final ↔
      ∃ next, state.advance lexeme = .ok next ∧ next.Reads lexemes final :=
  foldlM_cons_eq_ok

theorem reads_append {state final : State} {left right : List Lexeme} :
    state.Reads (left ++ right) final ↔
      ∃ middle, state.Reads left middle ∧ middle.Reads right final :=
  foldlM_append_eq_ok

namespace Behind

variable {state : State} {groups : List Group} {operations : List Operation}

theorem advance_blank (behind : state.Behind groups operations) (text : String) :
    state.advance (.blank text) = .ok ⟨groups, operations, .gap .descendant⟩ := by
  cases behind <;> rfl

theorem advance_sign (behind : state.Behind groups operations) {sign : Lexeme} {link : Combinator}
    (symbol : Sign sign link) :
    state.advance sign = .ok ⟨groups, operations, .gap link⟩ := by
  cases behind <;> cases symbol <;> rfl

theorem advance_comma (behind : state.Behind groups operations) :
    state.advance .comma = .ok ⟨⟨operations.reverse⟩ :: groups, [], .start⟩ := by
  cases behind <;> simp [advance, settle, comma, dangling?, push, closeGroup, Except.mapError]

end Behind

/-- The end of the text closes a group as a comma does. -/
theorem finish_of_advance_comma {state next : State} (closed : state.advance .comma = .ok next) :
    state.finish = .ok ⟨next.groups.reverse⟩ := by
  rcases state with ⟨groups, operations, mode⟩
  cases mode with
  | start => cases closed
  | sigil sigil => cases sigil <;> cases closed
  | gap link =>
      cases link with
      | descendant =>
          cases closed
          rfl
      | _ => cases closed
  | _ =>
      cases closed
      rfl

/-- The row is read from the start to the end. -/
def Accepts (lexemes : List Lexeme) (selector : Selector) : Prop :=
  ∃ final, initial.Reads lexemes final ∧ final.finish = .ok selector

end State

/-- Where tokens stand decides nothing but the places of errors. -/
theorem foldlM_take_eq_ok {tokens : List Token} {state final : State} :
    tokens.foldlM State.take state = .ok final ↔ state.Reads (tokens.map Token.lexeme) final := by
  induction tokens generalizing state with
  | nil => rw [foldlM_nil_eq_ok, List.map_nil, State.reads_nil]
  | cons token tokens ih =>
      rw [foldlM_cons_eq_ok, List.map_cons, State.reads_cons]
      simp only [State.take, mapError_eq_ok, ih]

theorem parse_eq_ok_iff_accepts {source : String} {selector : Selector} :
    parse source = .ok selector ↔
      ∃ tokens, Token.list source = .ok tokens ∧
        State.Accepts (tokens.map Token.lexeme) selector := by
  simp only [parse, ofTokens, bind_eq_ok, mapError_eq_ok, foldlM_take_eq_ok, State.Accepts]

/-! ## Nonterminals -/

namespace Grammar

variable {lexemes : List Lexeme} {state : State} {groups : List Group}
  {operations : List Operation}

/-- Padding behind a step. -/
theorem Padding.reads_behind (padding : Padding lexemes) (behind : state.Behind groups operations) :
    ∃ final, state.Reads lexemes final ∧ final.Behind groups operations := by
  cases padding with
  | none => exact ⟨state, State.reads_nil.mpr rfl, behind⟩
  | blank text =>
      have read := behind.advance_blank text
      exact ⟨_, State.reads_cons.mpr ⟨_, read, State.reads_nil.mpr rfl⟩, .blank⟩

/-- Padding in front of a group or behind an explicit combinator. -/
theorem Padding.reads_front (padding : Padding lexemes) (groups : List Group)
    (operations : List Operation) {mode : Mode}
    (between : mode = .start ∨ ∃ link, mode = .gap link) :
    State.Reads ⟨groups, operations, mode⟩ lexemes ⟨groups, operations, mode⟩ := by
  cases padding with
  | none => exact State.reads_nil.mpr rfl
  | blank text =>
      refine State.reads_cons.mpr ⟨⟨groups, operations, mode⟩, ?_, State.reads_nil.mpr rfl⟩
      rcases between with rfl | ⟨link, rfl⟩ <;> rfl

/-- A test is put behind the operations in front of it; another one can follow unless it is `*`. -/
theorem Simple.reads {test : Operation} (simple : Simple lexemes test) (free : state.Free) :
    ∃ final, state.Reads lexemes final ∧ final.Behind state.groups (test :: state.front) ∧
      (test ≠ .any → final.Free ∧ final.groups = state.groups ∧
        final.front = test :: state.front) := by
  rcases state with ⟨groups, operations, mode⟩
  cases mode with
  | star => cases free
  | sigil sigil => cases free
  | _ =>
      cases simple with
      | any => exact ⟨_, rfl, .star, fun differs => absurd rfl differs⟩
      | pseudo => exact ⟨_, rfl, .colonName, fun _ => ⟨trivial, rfl, rfl⟩⟩
      | _ => exact ⟨_, rfl, .step, fun _ => ⟨trivial, rfl, rfl⟩⟩

theorem Step.reads {tests : List Operation} (step : Step lexemes tests) (free : state.Free) :
    ∃ final, state.Reads lexemes final ∧
      final.Behind state.groups (tests.reverse ++ state.front) ∧
      (.any ∉ tests → final.Free ∧ final.groups = state.groups ∧
        final.front = tests.reverse ++ state.front) := by
  induction step with
  | @one lexemes test simple =>
      simpa [eq_comm] using simple.reads free
  | @more before lexemes tests test step noStar simple ih =>
      -- Without a `*` in front of it, the last test finds the step still open.
      rcases ih with ⟨middle, front, -, free⟩
      rcases free noStar with ⟨middleFree, sameGroups, sameFront⟩
      rcases simple.reads middleFree with ⟨final, back, behind, goesOn⟩
      refine ⟨final, State.reads_append.mpr ⟨middle, front, back⟩, ?_, ?_⟩
      · simpa [sameGroups, sameFront] using behind
      · intro noStarAtAll
        have differs : test ≠ .any := by
          rintro rfl
          simp at noStarAtAll
        simpa [sameGroups, sameFront] using goesOn differs

/-- Behind a step, the lexemes of a combinator leave it pending. -/
theorem Link.reads {link : Combinator} (joint : Link lexemes link)
    (behind : state.Behind groups operations) :
    state.Reads lexemes ⟨groups, operations, .gap link⟩ := by
  cases joint with
  | descendant text =>
      exact State.reads_cons.mpr ⟨_, behind.advance_blank text, State.reads_nil.mpr rfl⟩
  | explicit before symbol after =>
      rcases before.reads_behind behind with ⟨middle, front, stillBehind⟩
      have taken := stillBehind.advance_sign symbol
      have back := after.reads_front groups operations (.inr ⟨link, rfl⟩)
      exact State.reads_append.mpr ⟨middle, front, State.reads_cons.mpr ⟨_, taken, back⟩⟩

theorem Chain.reads (chain : Chain lexemes operations) (groups : List Group) :
    ∃ final, State.Reads ⟨groups, [], .start⟩ lexemes final ∧
      final.Behind groups operations.reverse := by
  induction chain with
  | one step =>
      have free : State.Free ⟨groups, [], .start⟩ := trivial
      rcases step.reads free with ⟨final, reads, behind, -⟩
      exact ⟨final, reads, by simpa [State.front, State.settle, State.join] using behind⟩
  | @more before between lexemes operations tests link chain joint step ih =>
      rcases ih with ⟨middle, front, behind⟩
      have linked := joint.reads behind
      have free : State.Free ⟨groups, operations.reverse, .gap link⟩ := trivial
      rcases step.reads free with ⟨final, back, closed, -⟩
      refine ⟨final, ?_, ?_⟩
      · exact State.reads_append.mpr ⟨_, State.reads_append.mpr ⟨middle, front, linked⟩, back⟩
      · simpa [State.front, State.settle, State.join, State.push] using closed

theorem Alternative.reads {group : Group} (alternative : Alternative lexemes group)
    (groups : List Group) :
    ∃ final, State.Reads ⟨groups, [], .start⟩ lexemes final ∧
      final.advance .comma = .ok ⟨group :: groups, [], .start⟩ := by
  rcases alternative with ⟨before, chain, after⟩
  rcases chain.reads groups with ⟨middle, row, behind⟩
  rcases after.reads_behind behind with ⟨final, back, ends⟩
  have front := before.reads_front groups [] (.inl rfl)
  refine ⟨final, ?_, ?_⟩
  · exact State.reads_append.mpr ⟨_, State.reads_append.mpr ⟨_, front, row⟩, back⟩
  · simpa using ends.advance_comma

/-- Behind the alternatives a comma would finish the last of them. -/
theorem Alternatives.reads (alternatives : Alternatives lexemes groups) :
    ∃ final, State.initial.Reads lexemes final ∧
      final.advance .comma = .ok ⟨groups.reverse, [], .start⟩ := by
  induction alternatives with
  | one alternative => exact alternative.reads []
  | @more before lexemes groups group alternatives alternative ih =>
      rcases ih with ⟨middle, front, comma⟩
      rcases alternative.reads groups.reverse with ⟨final, back, closed⟩
      have row := State.reads_append.mpr ⟨middle, front, State.reads_cons.mpr ⟨_, comma, back⟩⟩
      exact ⟨final, row, by simpa using closed⟩

/-- What the grammar derives is accepted. -/
theorem Derives.accepts {selector : Selector} (derives : Derives lexemes selector) :
    State.Accepts lexemes selector := by
  cases derives with
  | empty padding => exact ⟨State.initial, padding.reads_front [] [] (.inl rfl), rfl⟩
  | groups alternatives =>
      rcases alternatives.reads with ⟨final, reads, closed⟩
      exact ⟨final, reads, by simpa using State.finish_of_advance_comma closed⟩

end Grammar

end NodeQuery.Selector
