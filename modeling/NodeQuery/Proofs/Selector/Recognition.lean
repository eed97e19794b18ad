import NodeQuery.Proofs.Selector.Derivation
import NodeQuery.Proofs.Selector.Lexing

/-!
# The parser recognizes the grammar

Each state determines what the lexemes read so far are made of (`State.Shows`), and the next lexeme
adds to that.  So what the machine accepts has a derivation, and the parser accepts exactly the
texts whose lexemes the grammar derives.
-/

namespace NodeQuery.Selector

open Grammar

/-! ## States show what has been read -/

/-- The lexeme that a sigil is. -/
def Sigil.lexeme : Sigil → Lexeme
  | .hash => .hash
  | .dot => .dot
  | .colon => .colon

namespace Grammar

/-- The lexemes and operations of a group up to the end of a step. -/
inductive Stepped : List Lexeme → List Operation → Prop where
  | padded {left middle : List Lexeme} {operations : List Operation} (before : Padding left)
      (chain : Chain middle operations) : Stepped (left ++ middle) operations

/-- The lexemes and operations of a group up to the start of a step. -/
inductive Opening : List Lexeme → List Operation → Prop where
  | start {lexemes : List Lexeme} (padding : Padding lexemes) : Opening lexemes []
  | linked {before between : List Lexeme} {operations : List Operation} {link : Combinator}
      (stepped : Stepped before operations) (joint : Link between link) :
      Opening (before ++ between) (operations ++ [.combinator link])

/-- The lexemes and operations of a group up to a place where a test can stand. -/
inductive Ready : List Lexeme → List Operation → Prop where
  | first {lexemes : List Lexeme} {operations : List Operation}
      (opening : Opening lexemes operations) : Ready lexemes operations
  | further {before lexemes : List Lexeme} {operations tests : List Operation}
      (opening : Opening before operations) (step : Step lexemes tests) (noStar : .any ∉ tests) :
      Ready (before ++ lexemes) (operations ++ tests)

theorem Opening.stepped {before lexemes : List Lexeme} {operations tests : List Operation}
    (opening : Opening before operations) (step : Step lexemes tests) :
    Stepped (before ++ lexemes) (operations ++ tests) := by
  cases opening with
  | start padding => exact .padded padding (.one step)
  | linked stepped joint =>
      rcases stepped with ⟨padding, chain⟩
      simpa using Stepped.padded padding (.more chain joint step)

/-- A test ends a step; another one can follow unless it is `*`. -/
theorem Ready.simple {before lexemes : List Lexeme} {operations : List Operation}
    {test : Operation} (ready : Ready before operations) (simple : Simple lexemes test) :
    Stepped (before ++ lexemes) (operations ++ [test]) ∧
      (test ≠ .any → Ready (before ++ lexemes) (operations ++ [test])) := by
  cases ready with
  | first opening =>
      refine ⟨opening.stepped (.one simple), ?_⟩
      intro differs
      exact .further opening (.one simple) (by simpa using differs.symm)
  | further opening step noStar =>
      have longer := Step.more step noStar simple
      refine ⟨by simpa using opening.stepped longer, ?_⟩
      intro differs
      simpa using Ready.further opening longer (by simp [noStar, differs.symm])

theorem Padding.append_blank {lexemes : List Lexeme} (padding : Padding lexemes) {text : String}
    (apart : ∀ last ∈ lexemes.getLast?, last.Apart (.blank text)) :
    Padding (lexemes ++ [.blank text]) := by
  cases padding with
  | none => exact .blank text
  | blank other => simp [Lexeme.Apart] at apart

/-- Blanks prolong a combinator that does not end with blanks. -/
theorem Link.append_blank {lexemes : List Lexeme} {link : Combinator} (joint : Link lexemes link)
    {text : String} (apart : ∀ last ∈ lexemes.getLast?, last.Apart (.blank text)) :
    Link (lexemes ++ [.blank text]) link := by
  cases joint with
  | descendant other => simp [Lexeme.Apart] at apart
  | explicit before symbol behind =>
      cases behind with
      | none => simpa using Link.explicit before symbol (.blank text)
      | blank other => simp [Lexeme.Apart] at apart

/-- The lexemes and groups up to the start of a group. -/
inductive Finished : List Lexeme → List Group → Prop where
  | none : Finished [] []
  | comma {lexemes : List Lexeme} {groups : List Group}
      (alternatives : Alternatives lexemes groups) : Finished (lexemes ++ [.comma]) groups

theorem Alternatives.ne_nil {lexemes : List Lexeme} {groups : List Group}
    (alternatives : Alternatives lexemes groups) : groups ≠ [] := by
  cases alternatives <;> simp

theorem Finished.alternatives {front lexemes : List Lexeme} {groups : List Group} {group : Group}
    (finished : Finished front groups) (alternative : Alternative lexemes group) :
    Alternatives (front ++ lexemes) (groups ++ [group]) := by
  cases finished with
  | none => exact .one alternative
  | comma alternatives => simpa using Alternatives.more alternatives alternative

end Grammar

namespace State

/-- What the lexemes of the open group are made of. -/
def Open (state : State) (lexemes : List Lexeme) : Prop :=
  let operations := state.operations.reverse
  match state.mode with
  | .start => Padding lexemes ∧ operations = []
  | .gap link => ∃ before between, Stepped before operations ∧ Link between link ∧
      lexemes = before ++ between
  | .step => Stepped lexemes operations ∧ Ready lexemes operations
  | .star => Stepped lexemes operations
  | .sigil sigil => ∃ before, Ready before operations ∧ lexemes = before ++ [sigil.lexeme]
  | .colonName name => ∃ before, Ready before operations ∧
      lexemes = before ++ [.colon, .name name]

/-- What all lexemes read so far are made of. -/
def Shows (state : State) (lexemes : List Lexeme) : Prop :=
  ∃ front current, Finished front state.groups.reverse ∧ state.Open current ∧
    lexemes = front ++ current

/-- The state is not behind a sigil. -/
def Whole (state : State) : Prop := ∀ sigil, state.mode ≠ .sigil sigil

section Whole

variable {state : State}

theorem advance_blank (whole : state.Whole) (text : String) :
    state.advance (.blank text) = .ok state.settle.blank := by
  rcases state with ⟨groups, operations, mode⟩
  cases mode with
  | sigil sigil => exact absurd rfl (whole sigil)
  | _ => rfl

theorem advance_comma (whole : state.Whole) :
    state.advance .comma =
      state.settle.comma.mapError fun expectation => .expected expectation (some .comma) := by
  rcases state with ⟨groups, operations, mode⟩
  cases mode with
  | sigil sigil => exact absurd rfl (whole sigil)
  | _ => rfl

theorem advance_sign (whole : state.Whole) {sign : Lexeme} {link : Combinator}
    (symbol : Sign sign link) :
    state.advance sign =
      (state.settle.explicit link).mapError fun expectation =>
        .expected expectation (some sign) := by
  rcases state with ⟨groups, operations, mode⟩
  cases mode with
  | sigil sigil => exact absurd rfl (whole sigil)
  | _ => cases symbol <;> rfl

end Whole

/-- The ways in which a state takes a lexeme. -/
inductive Takes (state : State) : Lexeme → State → Prop where
  | blank {text : String} (whole : state.Whole) : Takes state (.blank text) state.settle.blank
  | comma {next : State} (whole : state.Whole) (closed : state.settle.comma = .ok next) :
      Takes state .comma next
  | sign {sign : Lexeme} {link : Combinator} {next : State} (whole : state.Whole)
      (symbol : Sign sign link) (pending : state.settle.explicit link = .ok next) :
      Takes state sign next
  | test {lexeme : Lexeme} {test : Operation} (free : state.Free)
      (simple : Simple [lexeme] test) :
      Takes state lexeme (state.settle.join.push test (modeBehind test))
  | sigil {sigil : Sigil} (free : state.Free) :
      Takes state sigil.lexeme { state.settle.join with mode := .sigil sigil }
  | named {sigil : Sigil} {name : String} {test : Operation} (behind : state.mode = .sigil sigil)
      (noColon : sigil ≠ .colon) (simple : Simple [sigil.lexeme, .name name] test) :
      Takes state (.name name) (state.push test (modeBehind test))
  | colonName {name : String} (behind : state.mode = .sigil .colon) :
      Takes state (.name name) { state with mode := .colonName name }
  | arguments {name args : String} (behind : state.mode = .colonName name) :
      Takes state (.arguments args) (state.push (.function name args) .step)

theorem takes_test {state next : State} {lexeme : Lexeme} {test : Operation}
    (whole : state.Whole) (simple : Simple [lexeme] test)
    (taken : state.advance lexeme = .ok next) : Takes state lexeme next := by
  rcases state with ⟨groups, operations, mode⟩
  have kept := simple
  cases mode with
  | sigil sigil => exact absurd rfl (whole sigil)
  | star => cases simple <;> cases taken
  | _ => cases simple <;> cases taken <;> exact .test trivial kept

theorem takes_sigil {state next : State} (sigil : Sigil) (whole : state.Whole)
    (taken : state.advance sigil.lexeme = .ok next) : Takes state sigil.lexeme next := by
  rcases state with ⟨groups, operations, mode⟩
  cases mode with
  | sigil sigil => exact absurd rfl (whole sigil)
  | star => cases sigil <;> cases taken
  | _ => cases sigil <;> cases taken <;> exact .sigil trivial

theorem takes_of_advance {state next : State} {lexeme : Lexeme}
    (taken : state.advance lexeme = .ok next) : Takes state lexeme next := by
  by_cases whole : state.Whole
  case neg =>
    rcases not_forall_not.mp whole with ⟨sigil, mode⟩
    rcases state with ⟨groups, operations, _⟩
    cases mode
    cases sigil <;> cases lexeme <;> cases taken
    · exact .named rfl nofun (.id _)
    · exact .named rfl nofun (.class _)
    · exact .colonName rfl
  case pos =>
    cases lexeme with
    | blank text =>
        rw [advance_blank whole] at taken
        cases taken
        exact .blank whole
    | comma =>
        rw [advance_comma whole, mapError_eq_ok] at taken
        exact .comma whole taken
    | greater =>
        rw [advance_sign whole .greater, mapError_eq_ok] at taken
        exact .sign whole .greater taken
    | tilde =>
        rw [advance_sign whole .tilde, mapError_eq_ok] at taken
        exact .sign whole .tilde taken
    | plus =>
        rw [advance_sign whole .plus, mapError_eq_ok] at taken
        exact .sign whole .plus taken
    | arguments args =>
        rcases state with ⟨groups, operations, mode⟩
        cases mode with
        | colonName name =>
            cases taken
            exact .arguments rfl
        | sigil sigil => exact absurd rfl (whole sigil)
        | _ => cases taken
    | star => exact takes_test whole .any taken
    | name name => exact takes_test whole (.tag name) taken
    | predicate body => exact takes_test whole (.predicate body) taken
    | hash => exact takes_sigil .hash whole taken
    | dot => exact takes_sigil .dot whole taken
    | colon => exact takes_sigil .colon whole taken

namespace Open

variable {state : State} {current : List Lexeme}

/-- A name behind a colon can be taken for a pseudo-selector. -/
theorem settle (shown : state.Open current) : state.settle.Open current := by
  rcases state with ⟨groups, operations, mode⟩
  cases mode with
  | colonName name =>
      rcases shown with ⟨before, ready, rfl⟩
      rcases ready.simple (.pseudo name) with ⟨stepped, further⟩
      have ready := further nofun
      simpa [Open, State.settle, push] using And.intro stepped ready
  | _ => exact shown

/-- A pending combinator can be taken for the start of a step. -/
theorem ready (shown : state.Open current) (free : state.Free) :
    Ready current state.front.reverse := by
  have settled := shown.settle
  rcases state with ⟨groups, operations, mode⟩
  cases mode with
  | star => cases free
  | sigil sigil => cases free
  | start =>
      rcases shown with ⟨padding, noOperations⟩
      exact noOperations ▸ Ready.first (.start padding)
  | gap link =>
      rcases shown with ⟨before, between, stepped, joint, rfl⟩
      simpa [front, State.settle, join, push] using Ready.first (.linked stepped joint)
  | _ => exact settled.2

/-- A test has been read as a whole. -/
theorem push {before lexemes : List Lexeme} {test : Operation}
    (ready : Ready before state.operations.reverse) (simple : Simple lexemes test) :
    (state.push test (modeBehind test)).Open (before ++ lexemes) := by
  rcases ready.simple simple with ⟨stepped, further⟩
  rw [← List.reverse_cons] at stepped further
  cases test with
  | any => exact stepped
  | _ => exact ⟨stepped, further nofun⟩

/-- Blanks are padding in front of a group or behind a combinator, and a combinator otherwise. -/
theorem blank (shown : state.Open current) (whole : state.Whole) {text : String}
    (apart : ∀ last ∈ current.getLast?, last.Apart (.blank text)) :
    state.settle.blank.Open (current ++ [.blank text]) := by
  have settled := shown.settle
  rcases state with ⟨groups, operations, mode⟩
  cases mode with
  | start =>
      rcases shown with ⟨padding, noOperations⟩
      exact ⟨padding.append_blank apart, noOperations⟩
  | gap link =>
      -- Behind a blank there is no second one, because the two would be one lexeme.
      rcases shown with ⟨before, between, stepped, joint, rfl⟩
      refine ⟨before, between ++ [.blank text], stepped, joint.append_blank ?_, by simp⟩
      exact fun last ending => apart last (List.mem_getLast?_append_of_mem_getLast? ending)
  | sigil sigil => exact absurd rfl (whole sigil)
  | star => exact ⟨current, _, shown, .descendant text, rfl⟩
  | _ => exact ⟨current, _, settled.1, .descendant text, rfl⟩

/-- A combinator can stand behind a step or the blanks behind it. -/
theorem sign (shown : state.Open current) (whole : state.Whole) {next : State} {sign : Lexeme}
    {link : Combinator} (symbol : Sign sign link)
    (pending : state.settle.explicit link = .ok next) :
    next.groups = state.groups ∧ next.Open (current ++ [sign]) := by
  have settled := shown.settle
  have joint : Link [sign] link := .explicit .none symbol .none
  rcases state with ⟨groups, operations, mode⟩
  cases mode with
  | start => cases pending
  | gap other =>
      rcases shown with ⟨before, between, stepped, blank, rfl⟩
      cases blank with
      | descendant text =>
          cases pending
          exact ⟨rfl, before, _, stepped, .explicit (.blank text) symbol .none, by simp⟩
      | explicit _ otherSymbol _ => cases otherSymbol <;> cases pending
  | sigil sigil => exact absurd rfl (whole sigil)
  | star =>
      cases pending
      exact ⟨rfl, current, [sign], shown, joint, rfl⟩
  | _ =>
      cases pending
      exact ⟨rfl, current, [sign], settled.1, joint, rfl⟩

/-- A comma ends a group behind a step or the blanks behind it. -/
theorem comma (shown : state.Open current) (whole : state.Whole) {next : State}
    (closed : state.settle.comma = .ok next) :
    ∃ group, next = ⟨group :: state.groups, [], .start⟩ ∧ Alternative current group := by
  have settled := shown.settle
  have alternative {lexemes : List Lexeme} {operations : List Operation}
      (stepped : Stepped lexemes operations) : Alternative lexemes ⟨operations⟩ := by
    rcases stepped with ⟨before, chain⟩
    simpa using Alternative.padded before chain .none
  rcases state with ⟨groups, operations, mode⟩
  cases mode with
  | start => cases closed
  | gap other =>
      rcases shown with ⟨before, between, stepped, blank, rfl⟩
      cases blank with
      | descendant text =>
          cases closed
          rcases stepped with ⟨before, chain⟩
          exact ⟨_, rfl, .padded before chain (.blank text)⟩
      | explicit _ otherSymbol _ => cases otherSymbol <;> cases closed
  | sigil sigil => exact absurd rfl (whole sigil)
  | star =>
      cases closed
      exact ⟨_, rfl, alternative shown⟩
  | _ =>
      cases closed
      exact ⟨_, rfl, alternative settled.1⟩

end Open

/-- Each lexeme adds to what the state shows. -/
theorem Shows.advance {state next : State} {lexemes : List Lexeme} {lexeme : Lexeme}
    (shown : state.Shows lexemes) (apart : ∀ last ∈ lexemes.getLast?, last.Apart lexeme)
    (taken : state.advance lexeme = .ok next) : next.Shows (lexemes ++ [lexeme]) := by
  rcases shown with ⟨front, current, finished, unfinished, rfl⟩
  have stays (groups : next.groups = state.groups) (shown : next.Open (current ++ [lexeme])) :
      next.Shows (front ++ current ++ [lexeme]) :=
    ⟨front, current ++ [lexeme], groups ▸ finished, shown, by simp⟩
  -- Only a comma ends the open group; everything else adds to it.
  cases takes_of_advance taken with
  | blank whole =>
      apply stays (by simp)
      apply unfinished.blank whole
      intro last ending
      exact apart last (List.mem_getLast?_append_of_mem_getLast? ending)
  | comma whole closed =>
      rcases unfinished.comma whole closed with ⟨group, rfl, alternative⟩
      refine ⟨front ++ current ++ [.comma], [], ?_, ⟨.none, rfl⟩, by simp⟩
      simpa using Finished.comma (finished.alternatives alternative)
  | sign whole symbol pending =>
      rcases unfinished.sign whole symbol pending with ⟨groups, shown⟩
      exact stays groups shown
  | test free simple => exact stays (by simp) (.push (unfinished.ready free) simple)
  | sigil free => exact stays (by simp) ⟨current, unfinished.ready free, rfl⟩
  | @named sigil name test mode _ simple =>
      simp only [Open, mode] at unfinished
      rcases unfinished with ⟨before, ready, rfl⟩
      exact stays rfl (by simpa using Open.push ready simple)
  | colonName mode =>
      simp only [Open, mode] at unfinished
      rcases unfinished with ⟨before, ready, rfl⟩
      exact stays rfl ⟨before, ready, by simp [Sigil.lexeme]⟩
  | @arguments name args mode =>
      simp only [Open, mode] at unfinished
      rcases unfinished with ⟨before, ready, rfl⟩
      exact stays rfl (by simpa [modeBehind] using Open.push ready (.function name args))

/-- A text can end where it has not begun or where a comma could stand. -/
theorem closed_of_finish {state : State} {selector : Selector}
    (finished : state.finish = .ok selector) :
    (state.mode = .start ∧ state.groups = [] ∧ selector = ⟨[]⟩) ∨
      ∃ next, state.Whole ∧ state.settle.comma = .ok next ∧ selector = ⟨next.groups.reverse⟩ := by
  rcases state with ⟨groups, operations, mode⟩
  cases mode with
  | start =>
      cases groups with
      | nil =>
          cases finished
          exact .inl ⟨rfl, rfl, rfl⟩
      | cons group groups => cases finished
  | gap link =>
      cases link <;> cases finished
      exact .inr ⟨_, nofun, rfl, rfl⟩
  | sigil sigil => cases sigil <;> cases finished
  | _ =>
      cases finished
      exact .inr ⟨_, nofun, rfl, rfl⟩

/-- What a state shows at the end of the text is a derivation. -/
theorem Shows.derives {state : State} {lexemes : List Lexeme} {selector : Selector}
    (shown : state.Shows lexemes) (ended : state.finish = .ok selector) :
    Derives lexemes selector := by
  rcases shown with ⟨front, current, finished, unfinished, rfl⟩
  rcases closed_of_finish ended with ⟨mode, noGroups, rfl⟩ | ⟨next, whole, closed, rfl⟩
  · simp only [Open, mode] at unfinished
    rw [noGroups, List.reverse_nil] at finished
    cases finished with
    | none => exact .empty unfinished.1
    | comma alternatives => exact absurd rfl alternatives.ne_nil
  · rcases unfinished.comma whole closed with ⟨group, rfl, alternative⟩
    simpa using Derives.groups (finished.alternatives alternative)

theorem shows_of_reads {state : State} {lexemes : List Lexeme}
    (apart : lexemes.IsChain Lexeme.Apart) (reads : initial.Reads lexemes state) :
    state.Shows lexemes := by
  -- The state is what the last lexeme makes of the state in front of it.
  induction lexemes using List.reverseRecOn generalizing state with
  | nil =>
      rw [reads_nil] at reads
      subst reads
      exact ⟨[], [], .none, ⟨.none, rfl⟩, rfl⟩
  | append_singleton lexemes lexeme ih =>
      rcases reads_append.mp reads with ⟨middle, front, back⟩
      rcases reads_cons.mp back with ⟨next, taken, ended⟩
      rcases List.isChain_append.mp apart with ⟨chain, -, neighbours⟩
      rw [reads_nil] at ended
      subst ended
      exact (ih chain front).advance (fun last ending => neighbours last ending lexeme rfl) taken

end State

/-! ## The parser -/

/-- A row without neighbours that belong together is accepted exactly if the grammar derives it. -/
theorem accepts_iff_derives {lexemes : List Lexeme} {selector : Selector}
    (apart : lexemes.IsChain Lexeme.Apart) :
    State.Accepts lexemes selector ↔ Derives lexemes selector := by
  constructor
  · rintro ⟨final, reads, finished⟩
    exact (State.shows_of_reads apart reads).derives finished
  · exact Derives.accepts

/-- No row of lexemes stands for two selectors. -/
theorem Grammar.Derives.unique {lexemes : List Lexeme} {selector other : Selector}
    (derives : Derives lexemes selector) (otherwise : Derives lexemes other) :
    selector = other := by
  rcases derives.accepts with ⟨final, reads, finished⟩
  rcases otherwise.accepts with ⟨otherFinal, otherReads, otherFinished⟩
  have sameState : final = otherFinal := Except.ok.inj (reads.symm.trans otherReads)
  subst sameState
  exact Except.ok.inj (finished.symm.trans otherFinished)

/-- The parser accepts the texts whose cuts the machine accepts. -/
theorem parse_eq_ok_iff_cuts {source : String} {selector : Selector} :
    parse source = .ok selector ↔
      ∃ lexemes, Cuts source.toList lexemes ∧ State.Accepts lexemes selector := by
  rw [parse_eq_ok_iff_accepts]
  constructor
  · rintro ⟨tokens, listed, accepts⟩
    exact ⟨_, Token.cuts_of_listFrom listed, accepts⟩
  · rintro ⟨lexemes, cuts, accepts⟩
    rcases Token.list_eq_ok_iff_cuts.mpr cuts with ⟨tokens, listed, rfl⟩
    exact ⟨tokens, listed, accepts⟩

/-- The parser accepts the texts whose lexemes the grammar derives, and finds what they stand
for. -/
theorem parse_eq_ok_iff_derives (source : String) (selector : Selector) :
    parse source = .ok selector ↔
      ∃ tokens, Token.list source = .ok tokens ∧
        Derives (tokens.map Token.lexeme) selector := by
  rw [parse_eq_ok_iff_accepts]
  apply exists_congr
  intro tokens
  apply and_congr_right
  intro listed
  exact accepts_iff_derives (Token.cuts_of_listFrom listed).apart

end NodeQuery.Selector
