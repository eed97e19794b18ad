import NodeQuery.Proofs.Outcome
import NodeQuery.Selector.Parser

/-!
# Reading selectors by recursive descent

A second parser for selectors, with one procedure for each rule of the grammar.  A procedure takes
the row of tokens that are left, looks at the first of them and gives back the row behind what it
has read.  What a procedure takes for granted it asserts, and a broken assertion is a failure of
its own (`Failure.broken`).

The descent finds in every text what the machine finds, be it a selector or an error.  So none of
the assertions is ever broken.
-/

namespace NodeQuery.Selector

/-- Neither the first nor the last operation is a combinator. -/
def TestsAtEdges (operations : List Operation) : Prop :=
  (∀ first ∈ operations.head?, first.isCombinator = false) ∧
    ∀ last ∈ operations.getLast?, last.isCombinator = false

instance (operations : List Operation) : Decidable (TestsAtEdges operations) :=
  inferInstanceAs (Decidable (_ ∧ _))

theorem TestsAtEdges.append {operations between tests : List Operation}
    (edges : TestsAtEdges operations) (joined : operations = [] → between = [])
    (nonempty : tests ≠ []) (areTests : ∀ test ∈ tests, test.isCombinator = false) :
    TestsAtEdges (operations ++ between ++ tests) := by
  constructor
  · intro first starting
    cases operations with
    | nil =>
        rw [joined rfl] at starting
        exact areTests first (List.mem_of_mem_head? starting)
    | cons operation operations => exact edges.1 first starting
  · intro last ending
    rw [List.getLast?_append_of_ne_nil _ nonempty] at ending
    exact areTests last (List.mem_of_mem_getLast? ending)

namespace Descent

/-! ## Tokens that are left -/

/-- What the procedures take for granted. -/
inductive Assertion where
  /-- There is a token to be consumed. -/
  | tokenLeft
  /-- A group has tests at its edges. -/
  | testsAtEdges
  /-- Behind a group there is a comma if there is anything. -/
  | commaBehindGroup
  deriving Repr, DecidableEq

/-- Why there is no selector. -/
inductive Failure where
  | rejected (error : SyntaxError)
  | broken (assertion : Assertion)
  deriving Repr, DecidableEq

/-- What a lexeme means between two steps. -/
inductive Role where
  | comma
  | blank
  | sign (link : Combinator)
  /-- The start of a test, or what can stand only behind one. -/
  | test
  deriving Repr, DecidableEq

def role : Lexeme → Role
  | .comma => .comma
  | .blank _ => .blank
  | .greater => .sign .child
  | .tilde => .sign .sibling
  | .plus => .sign .adjacent
  | _ => .test

theorem role_eq_comma {lexeme : Lexeme} : role lexeme = .comma ↔ lexeme = .comma := by
  cases lexeme <;> simp [role]

/-- The current lexeme, unless all tokens have been consumed. -/
def current? (tokens : List Token) : Option Lexeme := tokens.head?.map Token.lexeme

def role? (tokens : List Token) : Option Role := (current? tokens).map role

theorem role?_eq_some {tokens : List Token} {kind : Role} :
    role? tokens = some kind ↔
      ∃ token rest, role token.lexeme = kind ∧ tokens = token :: rest := by
  cases tokens with
  | nil => simp [role?, current?]
  | cons token tokens => simp [role?, current?]

/-- An error about the current token, or about the end of the text. -/
def reject (last : Place) (cause : SyntaxError.Cause) : List Token → Failure
  | [] => .rejected (.atEnd cause last)
  | token :: _ => .rejected (.atToken cause token)

def unexpected (last : Place) (expectation : Expectation) (tokens : List Token) : Failure :=
  reject last (.expected expectation (current? tokens)) tokens

/-- Consumes the current token. -/
def bump : List Token → Except Failure (List Token)
  | [] => .error (.broken .tokenLeft)
  | _ :: rest => .ok rest

theorem length_of_bump {tokens rest : List Token} (bumped : bump tokens = .ok rest) :
    rest.length < tokens.length := by
  cases tokens with
  | nil => cases bumped
  | cons token tokens =>
      cases bumped
      exact Nat.lt_succ_self _

/-- Consumes all blanks in front. -/
def burn (tokens : List Token) : Except Failure (List Token) :=
  if role? tokens = some .blank then
    match _bumped : bump tokens with
    | .error failure => .error failure
    | .ok rest => burn rest
  else .ok tokens
  termination_by tokens.length
  decreasing_by exact length_of_bump _bumped

theorem burn_eq (tokens : List Token) :
    burn tokens = .ok (tokens.dropWhile fun token => role token.lexeme = .blank) := by
  induction tokens with
  | nil => simp [burn, role?, current?]
  | cons token tokens ih =>
      rw [burn, List.dropWhile_cons]
      simp only [role?, current?, List.head?_cons, Option.map_some, Option.some.injEq,
        decide_eq_true_eq]
      split
      · simp only [bump, ih]
      · rfl

theorem length_of_burn {tokens rest : List Token} (burned : burn tokens = .ok rest) :
    rest.length ≤ tokens.length := by
  rw [burn_eq, Except.ok.injEq] at burned
  exact burned ▸ (List.dropWhile_suffix _).length_le

theorem length_of_burn_blank {tokens rest : List Token} (blank : role? tokens = some .blank)
    (burned : burn tokens = .ok rest) : rest.length < tokens.length := by
  rw [burn, if_pos blank] at burned
  split at burned
  · cases burned
  · exact Nat.lt_of_le_of_lt (length_of_burn burned) (length_of_bump ‹_›)

theorem role?_of_burn {tokens rest : List Token} (burned : burn tokens = .ok rest) :
    role? rest ≠ some .blank := by
  fun_induction burn tokens with
  | case1 => cases burned
  | case2 tokens blank others bumped ih => exact ih burned
  | case3 tokens noBlank =>
      cases burned
      exact noBlank

/-! ## The machine on tokens that are left -/

/-- What the machine finds from a state on. -/
def run (last : Place) (state : State) (tokens : List Token) : Except SyntaxError Selector := do
  let final ← tokens.foldlM State.take state
  final.finish.mapError fun expectation => .atEnd (.expected expectation none) last

section Run

variable {last : Place} {state other : State} {token : Token} {tokens : List Token}
  {groups : List Group} {operations : List Operation} {lexeme : Lexeme}

theorem run_nil :
    run last state [] =
      state.finish.mapError fun expectation => .atEnd (.expected expectation none) last := rfl

theorem run_cons :
    run last state (token :: tokens) = state.take token >>= fun next => run last next tokens := by
  simp [run, List.foldlM_cons]

theorem run_of_advance (taken : state.advance token.lexeme = .ok other) :
    run last state (token :: tokens) = run last other tokens := by
  rw [run_cons, State.take, taken]
  rfl

theorem run_of_error {cause : SyntaxError.Cause}
    (failed : state.advance token.lexeme = .error cause) :
    run last state (token :: tokens) = .error (.atToken cause token) := by
  rw [run_cons, State.take, failed]
  rfl

/-- Two states that agree on the current lexeme and on the end of the text find the same. -/
theorem run_congr (same : ∀ lexeme ∈ current? tokens, state.advance lexeme = other.advance lexeme)
    (sameEnd : tokens = [] → state.finish = other.finish) :
    run last state tokens = run last other tokens := by
  cases tokens with
  | nil => simp only [run, List.foldlM_nil, pure_bind, sameEnd rfl]
  | cons token tokens =>
      rw [run_cons, run_cons, State.take, State.take, same token.lexeme rfl]

theorem run_colonName {name : String}
    (noArguments : ∀ args, current? tokens ≠ some (.arguments args)) :
    run last ⟨groups, operations, .colonName name⟩ tokens =
      run last ⟨groups, .pseudo name :: operations, .step⟩ tokens := by
  refine run_congr (fun lexeme current => ?_) fun _ => rfl
  cases lexeme with
  | arguments args => exact absurd current (noArguments args)
  | _ => rfl

theorem run_star (ended : role? tokens ≠ some .test) :
    run last ⟨groups, operations, .star⟩ tokens = run last ⟨groups, operations, .step⟩ tokens := by
  refine run_congr (fun lexeme current => ?_) fun _ => rfl
  rw [role?, Option.mem_def.mp current] at ended
  cases lexeme <;> first | rfl | exact absurd rfl ended

/-- A pending combinator becomes part of the group as soon as a test follows. -/
theorem run_gap {link : Combinator} (test : role? tokens = some .test) :
    run last ⟨groups, operations, .gap link⟩ tokens =
      run last ⟨groups, .combinator link :: operations, .step⟩ tokens := by
  refine run_congr (fun lexeme current => ?_) ?_
  · rw [role?, Option.mem_def.mp current] at test
    cases lexeme <;> first | rfl | cases test
  · rintro rfl
    cases test

theorem run_start (test : role? tokens = some .test) :
    run last ⟨groups, [], .start⟩ tokens = run last ⟨groups, [], .step⟩ tokens := by
  refine run_congr (fun lexeme current => ?_) ?_
  · rw [role?, Option.mem_def.mp current] at test
    cases lexeme <;> first | rfl | cases test
  · rintro rfl
    cases test

/-- Blanks behind a step are a pending combinator. -/
theorem run_blank (blank : role? tokens = some .blank) :
    run last ⟨groups, operations, .step⟩ tokens =
      run last ⟨groups, operations, .gap .descendant⟩ tokens := by
  refine run_congr (fun lexeme current => ?_) ?_
  · rw [role?, Option.mem_def.mp current] at blank
    cases lexeme <;> first | rfl | cases blank
  · rintro rfl
    cases blank

/-- At the end of a group blanks are no combinator. -/
theorem run_trailing (ended : ∀ kind ∈ role? tokens, kind = .comma) :
    run last ⟨groups, operations, .gap .descendant⟩ tokens =
      run last ⟨groups, operations, .step⟩ tokens := by
  refine run_congr (fun lexeme current => ?_) fun _ => rfl
  have comma := ended (role lexeme) (Option.mem_map_of_mem role current)
  cases lexeme <;> first | rfl | cases comma

/-- Where blanks mean nothing, they can be skipped. -/
theorem run_of_burn (keeps : ∀ text, state.advance (.blank text) = .ok state) {rest : List Token}
    (burned : burn tokens = .ok rest) : run last state tokens = run last state rest := by
  fun_induction burn tokens with
  | case1 => cases burned
  | case2 tokens blank others bumped ih =>
      rcases role?_eq_some.mp blank with ⟨token, behind, isBlank, rfl⟩
      cases bumped
      rw [← ih burned]
      apply run_of_advance
      cases h : token.lexeme with
      | blank text => exact keeps text
      | _ => simp [h, role] at isBlank
  | case3 =>
      cases burned
      rfl

end Run

/-! ## The procedures -/

/-- A procedure agrees with the machine: either both reject the text for the same reason, or the
procedure succeeds and the rest is said of its result. -/
def Follows {α : Type} (outcome : Except Failure α) (machine : Except SyntaxError Selector)
    (next : α → Prop) : Prop :=
  match outcome with
  | .error failure => ∃ error, failure = .rejected error ∧ machine = .error error
  | .ok result => next result

namespace Follows

variable {α β : Type} {outcome : Except Failure α} {machine : Except SyntaxError Selector}
  {next : α → Prop}

theorem of_ok (follows : Follows outcome machine next) {result : α} (found : outcome = .ok result) :
    next result := by
  subst found
  exact follows

theorem mono (follows : Follows outcome machine next) {weaker : α → Prop}
    (weaken : ∀ result, next result → weaker result) : Follows outcome machine weaker := by
  cases outcome with
  | error failure => exact follows
  | ok result => exact weaken result follows

theorem bind (follows : Follows outcome machine next) {f : α → Except Failure β} {behind : β → Prop}
    (further : ∀ result, next result → Follows (f result) machine behind) :
    Follows (outcome >>= f) machine behind := by
  cases outcome with
  | error failure => exact follows
  | ok result => exact further result follows

end Follows

theorem unexpected_follows {α : Type} {last : Place} {expectation : Expectation}
    {tokens : List Token} {state : State} {next : α → Prop}
    (failed : ∀ lexeme ∈ current? tokens,
      state.advance lexeme = .error (.expected expectation (some lexeme)))
    (ended : tokens = [] → state.finish = .error expectation) :
    Follows (.error (unexpected last expectation tokens)) (run last state tokens) next := by
  cases tokens with
  | nil => exact ⟨_, rfl, by rw [run_nil, ended rfl]; rfl⟩
  | cons token tokens => exact ⟨_, rfl, run_of_error (failed token.lexeme rfl)⟩

/-- Consumes the name behind a sigil. -/
def name (last : Place) (sigil : Sigil) (tokens : List Token) :
    Except Failure (String × List Token) :=
  match current? tokens with
  | some (.name name) => do return (name, ← bump tokens)
  | _ => .error (unexpected last (.nameAfter sigil) tokens)

theorem name_follows (last : Place) (sigil : Sigil) (tokens : List Token) (groups : List Group)
    (operations : List Operation) :
    Follows (name last sigil tokens) (run last ⟨groups, operations, .sigil sigil⟩ tokens)
      fun (name, rest) => ∃ token, token.lexeme = .name name ∧ tokens = token :: rest := by
  rcases tokens with _ | ⟨⟨lexeme, place, stop⟩, rest⟩
  · exact unexpected_follows nofun fun _ => rfl
  · cases lexeme with
    | name text => exact ⟨_, rfl, rfl⟩
    | _ =>
        refine unexpected_follows ?_ nofun
        rintro _ ⟨⟩
        cases sigil <;> rfl

/-- Reads a test that is a name behind a sigil. -/
def marked (last : Place) (sigil : Sigil) (make : String → Operation) (tokens : List Token) :
    Except Failure (Option (Operation × List Token)) := do
  let (name, rest) ← name last sigil (← bump tokens)
  return some (make name, rest)

/-- Reads `*`, which must be the last test of its step. -/
def starred (last : Place) (tokens : List Token) :
    Except Failure (Option (Operation × List Token)) := do
  let rest ← bump tokens
  if role? rest = some .test then .error (unexpected last .endAfterStar rest)
  else return some (.any, rest)

/-- Reads what a colon starts, which is a function if arguments follow. -/
def called (last : Place) (tokens : List Token) :
    Except Failure (Option (Operation × List Token)) := do
  let (name, rest) ← name last .colon (← bump tokens)
  match current? rest with
  | some (.arguments args) => return some (.function name args, ← bump rest)
  | _ => return some (.pseudo name, rest)

/-- Reads one test, or nothing if the step is over. -/
def simple? (last : Place) (tokens : List Token) :
    Except Failure (Option (Operation × List Token)) :=
  match current? tokens with
  | some .star => starred last tokens
  | some (.name name) => do return some (.tag name, ← bump tokens)
  | some .hash => marked last .hash .id tokens
  | some .dot => marked last .dot .class tokens
  | some (.predicate body) => do return some (.predicate body, ← bump tokens)
  | some .colon => called last tokens
  | some (.arguments _) => .error (reject last .strayArguments tokens)
  | _ => .ok none

/-- Reading a test consumes it.  Behind it the machine stands where it stood, but for the test. -/
def Consumes (last : Place) (groups : List Group) (operations : List Operation)
    (tokens : List Token) : Option (Operation × List Token) → Prop
  | none => role? tokens ≠ some .test
  | some (test, rest) => test.isCombinator = false ∧ rest.length < tokens.length ∧
      run last ⟨groups, operations, .step⟩ tokens =
        run last ⟨groups, test :: operations, .step⟩ rest

section Simple

variable (last : Place) (groups : List Group) (operations : List Operation)

theorem marked_follows {sigil : Sigil} {make : String → Operation} {token : Token}
    (rest : List Token) (isTest : ∀ text, (make text).isCombinator = false)
    (opens : State.advance ⟨groups, operations, .step⟩ token.lexeme =
      .ok ⟨groups, operations, .sigil sigil⟩)
    (makes : ∀ text, State.advance ⟨groups, operations, .sigil sigil⟩ (.name text) =
      .ok ⟨groups, make text :: operations, .step⟩) :
    Follows (marked last sigil make (token :: rest))
      (run last ⟨groups, operations, .step⟩ (token :: rest))
      (Consumes last groups operations (token :: rest)) := by
  rw [run_of_advance opens]
  refine (name_follows last sigil rest groups operations).bind ?_
  rintro ⟨text, behind⟩ ⟨next, named, rfl⟩
  refine ⟨isTest text, by simp only [List.length_cons]; omega, ?_⟩
  rw [run_of_advance opens, run_of_advance (named ▸ makes text)]

theorem starred_follows {token : Token} (star : token.lexeme = .star) (rest : List Token) :
    Follows (starred last (token :: rest)) (run last ⟨groups, operations, .step⟩ (token :: rest))
      (Consumes last groups operations (token :: rest)) := by
  have taken : run last ⟨groups, operations, .step⟩ (token :: rest) =
      run last ⟨groups, .any :: operations, .star⟩ rest :=
    run_of_advance (by rw [star]; rfl)
  change Follows (if role? rest = some .test then _ else _) _ _
  split
  case isTrue test =>
    rw [taken]
    refine unexpected_follows ?_ ?_
    · intro lexeme current
      rw [role?, Option.mem_def.mp current] at test
      cases lexeme <;> first | rfl | cases test
    · rintro rfl
      cases test
  case isFalse ended => exact ⟨rfl, Nat.lt_succ_self _, taken.trans (run_star ended)⟩

theorem called_follows {token : Token} (colon : token.lexeme = .colon) (rest : List Token) :
    Follows (called last (token :: rest)) (run last ⟨groups, operations, .step⟩ (token :: rest))
      (Consumes last groups operations (token :: rest)) := by
  have opened : run last ⟨groups, operations, .step⟩ (token :: rest) =
      run last ⟨groups, operations, .sigil .colon⟩ rest :=
    run_of_advance (by rw [colon]; rfl)
  rw [opened]
  refine (name_follows last .colon rest groups operations).bind ?_
  rintro ⟨text, behind⟩ ⟨next, named, rfl⟩
  have taken : run last ⟨groups, operations, .step⟩ (token :: next :: behind) =
      run last ⟨groups, operations, .colonName text⟩ behind :=
    opened.trans (run_of_advance (by rw [named]; rfl))
  have consumed : behind.length < (token :: next :: behind).length := by
    simp only [List.length_cons]
    omega
  rcases behind with _ | ⟨⟨lexeme, place, stop⟩, others⟩
  · exact ⟨rfl, consumed, taken.trans (run_colonName nofun)⟩
  · cases lexeme with
    | arguments args =>
        exact ⟨rfl, Nat.lt_of_succ_lt consumed, taken.trans (run_of_advance rfl)⟩
    | _ => exact ⟨rfl, consumed, taken.trans (run_colonName nofun)⟩

theorem simple?_follows (tokens : List Token) :
    Follows (simple? last tokens) (run last ⟨groups, operations, .step⟩ tokens)
      (Consumes last groups operations tokens) := by
  rcases tokens with _ | ⟨⟨lexeme, place, stop⟩, rest⟩
  · exact nofun
  cases lexeme with
  | blank | comma | greater | tilde | plus => exact nofun
  | arguments args => exact ⟨_, rfl, run_of_error rfl⟩
  | name text => exact ⟨rfl, Nat.lt_succ_self _, run_of_advance rfl⟩
  | predicate body => exact ⟨rfl, Nat.lt_succ_self _, run_of_advance rfl⟩
  | star => exact starred_follows last groups operations rfl rest
  | hash => exact marked_follows last groups operations rest (fun _ => rfl) rfl fun _ => rfl
  | dot => exact marked_follows last groups operations rest (fun _ => rfl) rfl fun _ => rfl
  | colon => exact called_follows last groups operations rfl rest

end Simple

/-- Reads the tests of a step and puts them behind the operations that are there. -/
def step (last : Place) (operations : List Operation) (tokens : List Token) :
    Except Failure (List Operation × List Token) :=
  match _read : simple? last tokens with
  | .error failure => .error failure
  | .ok none => .ok (operations, tokens)
  | .ok (some (test, rest)) => step last (operations ++ [test]) rest
  termination_by tokens.length
  decreasing_by exact ((simple?_follows last [] [] tokens).of_ok _read).2.1

/-- A step adds tests to the operations and is over where no further test follows.  Behind it the
machine stands where it stood, but for the tests. -/
structure Extends (last : Place) (groups : List Group) (operations : List Operation)
    (tokens : List Token) (found : List Operation × List Token) (tests : List Operation) :
    Prop where
  whole : found.1 = operations ++ tests
  areTests : ∀ test ∈ tests, test.isCombinator = false
  notLonger : found.2.length ≤ tokens.length
  consumed : role? tokens = some .test → tests ≠ [] ∧ found.2.length < tokens.length
  ended : role? found.2 ≠ some .test
  taken : run last ⟨groups, operations.reverse, .step⟩ tokens =
    run last ⟨groups, found.1.reverse, .step⟩ found.2

theorem step_follows (last : Place) (groups : List Group) (operations : List Operation)
    (tokens : List Token) :
    Follows (step last operations tokens) (run last ⟨groups, operations.reverse, .step⟩ tokens)
      fun found => ∃ tests, Extends last groups operations tokens found tests := by
  fun_induction step last operations tokens with
  | case1 operations tokens failure failed =>
      have follows := simple?_follows last groups operations.reverse tokens
      rw [failed] at follows
      exact follows
  | case2 operations tokens ended =>
      have ended := (simple?_follows last groups operations.reverse tokens).of_ok ended
      exact ⟨[], by simp, nofun, Nat.le_refl _, fun test => absurd test ended, ended, rfl⟩
  | case3 operations tokens test rest read ih =>
      have ⟨isTest, shorter, taken⟩ :=
        (simple?_follows last groups operations.reverse tokens).of_ok read
      rw [List.reverse_append, List.reverse_singleton, List.singleton_append, ← taken] at ih
      apply ih.mono
      rintro found ⟨tests, further⟩
      have consumed := Nat.lt_of_le_of_lt further.notLonger shorter
      refine ⟨test :: tests, ?_, ?_, Nat.le_of_lt consumed, fun _ => ⟨nofun, consumed⟩,
        further.ended, ?_⟩
      · simpa using further.whole
      · exact List.forall_mem_cons.mpr ⟨isTest, further.areTests⟩
      · simpa [taken] using further.taken

/-- Makes a group of the operations. -/
def newGroup (operations : List Operation) : Except Failure Group :=
  if TestsAtEdges operations then .ok ⟨operations⟩ else .error (.broken .testsAtEdges)

/-- Ends a group.  A trailing blank is no combinator. -/
def closeGroup (last : Place) (operations : List Operation) (pending : Option Combinator)
    (tokens : List Token) : Except Failure (Group × List Token) :=
  match pending with
  | none | some .descendant => do return (← newGroup operations, tokens)
  | some link => .error (unexpected last (.stepAfter link) tokens)

/-- Reads the rest of a group up to a comma or the end of the text.  A combinator is pending until
a step follows. -/
def groupFrom (last : Place) (operations : List Operation) (pending : Option Combinator)
    (tokens : List Token) : Except Failure (Group × List Token) :=
  match _role : role? tokens with
  | none | some .comma => closeGroup last operations pending tokens
  | some .blank =>
      match _burned : burn tokens with
      | .error failure => .error failure
      | .ok rest => groupFrom last operations (pending.or (some .descendant)) rest
  | some (.sign link) =>
      if operations = [] ∨ pending.any (· ≠ .descendant) then
        .error (unexpected last .selector tokens)
      else
        match _passed : bump tokens >>= burn with
        | .error failure => .error failure
        | .ok rest => groupFrom last operations (some link) rest
  | some .test =>
      match _read : step last (operations ++ pending.toList.map .combinator) tokens with
      | .error failure => .error failure
      | .ok (whole, rest) => groupFrom last whole none rest
  termination_by tokens.length
  decreasing_by
    · exact length_of_burn_blank _role _burned
    · rcases bind_eq_ok.mp _passed with ⟨behind, bumped, burned⟩
      exact Nat.lt_of_le_of_lt (length_of_burn burned) (length_of_bump bumped)
    · rcases (step_follows last [] _ tokens).of_ok _read with ⟨_, added⟩
      exact (added.consumed _role).2

/-! ## Groups -/

/-- How far a group has been read when the loop of `groupFrom` starts over, and the mode of the
machine there. -/
inductive Between (tokens : List Token) : List Operation → Option Combinator → Mode → Prop where
  | start (noBlank : role? tokens ≠ some .blank) : Between tokens [] none .start
  | behind {operations : List Operation} (edges : TestsAtEdges operations)
      (nonempty : operations ≠ []) (ended : role? tokens ≠ some .test) :
      Between tokens operations none .step
  | pending {operations : List Operation} (edges : TestsAtEdges operations)
      (nonempty : operations ≠ []) (link : Combinator) :
      Between tokens operations (some link) (.gap link)

/-- The mode of the machine behind a group with the given operations. -/
def restingMode (operations : List Operation) : Mode := if operations = [] then .start else .step

/-- The group is what the machine has read of it up to a comma or the end of the text. -/
structure Ends (last : Place) (groups : List Group) (before : State) (tokens : List Token)
    (found : Group × List Token) : Prop where
  notLonger : found.2.length ≤ tokens.length
  ended : ∀ kind ∈ role? found.2, kind = .comma
  taken : run last before tokens =
    run last ⟨groups, found.1.operations.reverse, restingMode found.1.operations⟩ found.2

/-- What is said of a place further on holds here as well. -/
theorem Follows.resume {last : Place} {groups : List Group} {before behind : State}
    {tokens rest : List Token} {outcome : Except Failure (Group × List Token)}
    (follows : Follows outcome (run last behind rest) (Ends last groups behind rest))
    (same : run last before tokens = run last behind rest)
    (notLonger : rest.length ≤ tokens.length) :
    Follows outcome (run last before tokens) (Ends last groups before tokens) := by
  rw [same]
  apply follows.mono
  intro found ends
  exact ⟨Nat.le_trans ends.notLonger notLonger, ends.ended, same.trans ends.taken⟩

section Between

variable {last : Place} {groups : List Group} {tokens : List Token} {operations : List Operation}
  {pending : Option Combinator} {mode : Mode} {lexeme : Lexeme} {link : Combinator}

namespace Between

theorem edges (between : Between tokens operations pending mode) : TestsAtEdges operations := by
  cases between with
  | start => exact ⟨nofun, nofun⟩
  | behind edges => exact edges
  | pending edges => exact edges

theorem run_test (between : Between tokens operations pending mode)
    (test : role? tokens = some .test) :
    run last ⟨groups, operations.reverse, mode⟩ tokens =
      run last ⟨groups, (operations ++ pending.toList.map Operation.combinator).reverse, .step⟩
        tokens := by
  cases between with
  | start => exact run_start test
  | behind _ _ ended => exact absurd test ended
  | pending _ _ link => simpa using run_gap test

/-- No combinator can stand at the start of a group or behind another one. -/
theorem advance_misplaced (between : Between tokens operations pending mode)
    (sign : role lexeme = .sign link)
    (misplaced : operations = [] ∨ pending.any (· ≠ .descendant)) :
    State.advance ⟨groups, operations.reverse, mode⟩ lexeme =
      .error (.expected .selector (some lexeme)) := by
  cases between with
  | start => cases lexeme <;> first | rfl | cases sign
  | behind edges nonempty => simp [nonempty] at misplaced
  | pending edges nonempty other =>
      have explicit : other ≠ .descendant := by simpa [nonempty] using misplaced
      cases other <;> cases lexeme <;> first | rfl | exact absurd rfl explicit | cases sign

theorem advance_placed (between : Between tokens operations pending mode)
    (sign : role lexeme = .sign link)
    (placed : ¬ (operations = [] ∨ pending.any (· ≠ .descendant))) :
    State.advance ⟨groups, operations.reverse, mode⟩ lexeme =
      .ok ⟨groups, operations.reverse, .gap link⟩ := by
  have ⟨nonempty, implicit⟩ := not_or.mp placed
  cases between with
  | start => exact absurd rfl nonempty
  | behind => cases lexeme <;> cases sign <;> rfl
  | pending _ _ other =>
      obtain rfl : other = .descendant := by simpa using implicit
      cases lexeme <;> cases sign <;> rfl

end Between

theorem closeGroup_follows (between : Between tokens operations pending mode)
    (ended : ∀ kind ∈ role? tokens, kind = .comma) :
    Follows (closeGroup last operations pending tokens)
      (run last ⟨groups, operations.reverse, mode⟩ tokens)
      (Ends last groups ⟨groups, operations.reverse, mode⟩ tokens) := by
  have closed (same : run last ⟨groups, operations.reverse, mode⟩ tokens =
      run last ⟨groups, operations.reverse, restingMode operations⟩ tokens) :
      Follows (do return (← newGroup operations, tokens))
        (run last ⟨groups, operations.reverse, mode⟩ tokens)
        (Ends last groups ⟨groups, operations.reverse, mode⟩ tokens) := by
    rw [newGroup, if_pos between.edges]
    exact ⟨Nat.le_refl _, ended, same⟩
  cases between with
  | start => exact closed rfl
  | behind edges nonempty => exact closed (by rw [restingMode, if_neg nonempty])
  | pending edges nonempty link =>
      have stepAfter (explicit : link ≠ .descendant) :
          Follows (.error (unexpected last (.stepAfter link) tokens))
            (run last ⟨groups, operations.reverse, .gap link⟩ tokens)
            (Ends last groups ⟨groups, operations.reverse, .gap link⟩ tokens) := by
        refine unexpected_follows ?_ ?_
        · intro lexeme current
          have comma := ended (role lexeme) (Option.mem_map_of_mem role current)
          cases link <;> cases lexeme <;> first | rfl | exact absurd rfl explicit | cases comma
        · intro _
          cases link <;> first | rfl | exact absurd rfl explicit
      cases link with
      | descendant => exact closed (by rw [restingMode, if_neg nonempty, run_trailing ended])
      | _ => exact stepAfter nofun

theorem groupFrom_follows (between : Between tokens operations pending mode) :
    Follows (groupFrom last operations pending tokens)
      (run last ⟨groups, operations.reverse, mode⟩ tokens)
      (Ends last groups ⟨groups, operations.reverse, mode⟩ tokens) := by
  fun_induction groupFrom last operations pending tokens generalizing mode with
  | case1 operations pending tokens ended => exact closeGroup_follows between (by simp [ended])
  | case2 operations pending tokens comma => exact closeGroup_follows between (by simp [comma])
  | case3 operations pending tokens blank failure failed =>
      rw [burn_eq] at failed
      cases failed
  | case4 operations pending tokens blank rest burned ih =>
      have notLonger := length_of_burn burned
      cases between with
      | start noBlank => exact absurd blank noBlank
      | behind edges nonempty ended =>
          refine (ih (.pending edges nonempty .descendant)).resume ?_ notLonger
          rw [run_blank blank, run_of_burn (fun _ => rfl) burned]
      | pending edges nonempty link =>
          refine (ih (.pending edges nonempty link)).resume ?_ notLonger
          exact run_of_burn (fun _ => rfl) burned
  | case5 operations pending tokens link sign misplaced =>
      rcases role?_eq_some.mp sign with ⟨token, rest, isSign, rfl⟩
      refine unexpected_follows ?_ nofun
      rintro _ ⟨⟩
      exact between.advance_misplaced isSign misplaced
  | case6 operations pending tokens link sign placed failure failed =>
      rcases role?_eq_some.mp sign with ⟨token, rest, isSign, rfl⟩
      change burn rest = .error failure at failed
      rw [burn_eq] at failed
      cases failed
  | case7 operations pending tokens link sign placed rest passed ih =>
      rcases role?_eq_some.mp sign with ⟨token, behind, isSign, rfl⟩
      change burn behind = .ok rest at passed
      have next := ih (.pending between.edges (not_or.mp placed).1 link)
      refine next.resume ?_ (Nat.le_succ_of_le (length_of_burn passed))
      rw [← run_of_burn (fun _ => rfl) passed]
      exact run_of_advance (between.advance_placed isSign placed)
  | case8 operations pending tokens test failure failed =>
      rw [between.run_test test]
      have follows := step_follows last groups (operations ++ pending.toList.map .combinator) tokens
      rw [failed] at follows
      exact follows
  | case9 operations pending tokens test whole rest read ih =>
      rcases (step_follows last groups _ tokens).of_ok read with ⟨tests, added⟩
      obtain rfl := added.whole
      have ⟨nonempty, _⟩ := added.consumed test
      have edges : TestsAtEdges (operations ++ pending.toList.map .combinator ++ tests) := by
        refine between.edges.append ?_ nonempty added.areTests
        rintro rfl
        cases between with
        | start => rfl
        | behind _ nonempty => exact absurd rfl nonempty
        | pending _ nonempty => exact absurd rfl nonempty
      refine (ih (.behind edges (by simp [nonempty]) added.ended)).resume ?_ added.notLonger
      rw [between.run_test test, added.taken]

end Between

/-- Reads one alternative. -/
def group (last : Place) (tokens : List Token) : Except Failure (Group × List Token) := do
  groupFrom last [] none (← burn tokens)

theorem group_follows (last : Place) (groups : List Group) (tokens : List Token) :
    Follows (group last tokens) (run last ⟨groups, [], .start⟩ tokens)
      (Ends last groups ⟨groups, [], .start⟩ tokens) := by
  have burned := burn_eq tokens
  have between := Between.start (role?_of_burn burned)
  rw [group, burned]
  exact (groupFrom_follows between).resume (run_of_burn (fun _ => rfl) burned)
    (length_of_burn burned)

/-! ## Selectors -/

/-- Reads the alternatives behind those that are there. -/
def selectorFrom (last : Place) (groups : List Group) (tokens : List Token) :
    Except Failure Selector :=
  match _read : group last tokens with
  | .error failure => .error failure
  | .ok (found, []) =>
      if found.operations ≠ [] then .ok ⟨groups ++ [found]⟩
      else if groups ≠ [] then .error (unexpected last .groupAfterComma [])
      else .ok ⟨groups⟩
  | .ok (found, token :: rest) =>
      if role token.lexeme ≠ .comma then .error (.broken .commaBehindGroup)
      else if found.operations = [] then .error (unexpected last .selector (token :: rest))
      else
        match _passed : bump (token :: rest) with
        | .error failure => .error failure
        | .ok rest => selectorFrom last (groups ++ [found]) rest
  termination_by tokens.length
  decreasing_by
    have ends := (group_follows last [] tokens).of_ok _read
    exact Nat.lt_of_lt_of_le (length_of_bump _passed) ends.notLonger

theorem selectorFrom_eq (last : Place) (groups : List Group) (tokens : List Token) :
    selectorFrom last groups tokens =
      (run last ⟨groups.reverse, [], .start⟩ tokens).mapError .rejected := by
  fun_induction selectorFrom last groups tokens with
  | case1 groups tokens failure failed =>
      have follows := group_follows last groups.reverse tokens
      rw [failed] at follows
      rcases follows with ⟨error, rfl, found⟩
      rw [found]
      rfl
  | case2 groups tokens found read nonempty =>
      have taken := ((group_follows last groups.reverse tokens).of_ok read).taken
      rw [taken, restingMode, if_neg nonempty, run_nil]
      simp [State.finish, State.dangling?, State.settle, State.closeGroup, Except.mapError]
  | case3 groups tokens found read empty others =>
      have taken := ((group_follows last groups.reverse tokens).of_ok read).taken
      rw [taken, Decidable.not_not.mp empty, run_nil]
      cases reversed : groups.reverse with
      | nil => exact absurd (List.reverse_eq_nil_iff.mp reversed) others
      | cons => rfl
  | case4 groups tokens found read empty others =>
      have taken := ((group_follows last groups.reverse tokens).of_ok read).taken
      rw [taken, Decidable.not_not.mp empty, Decidable.not_not.mp others]
      rfl
  | case5 groups tokens found token rest read noComma =>
      have ends := (group_follows last groups.reverse tokens).of_ok read
      exact absurd (ends.ended _ rfl) noComma
  | case6 groups tokens found token rest read comma empty =>
      have taken := ((group_follows last groups.reverse tokens).of_ok read).taken
      have comma := role_eq_comma.mp (Decidable.not_not.mp comma)
      rw [taken, empty, run_of_error (by rw [comma]; rfl), unexpected, current?, List.head?_cons,
        Option.map_some, comma]
      rfl
  | case7 groups tokens found token rest read comma nonempty failure failed => cases failed
  | case8 groups tokens found token rest read comma nonempty behind passed ih =>
      have taken := ((group_follows last groups.reverse tokens).of_ok read).taken
      have comma := role_eq_comma.mp (Decidable.not_not.mp comma)
      cases passed
      rw [taken, restingMode, if_neg nonempty, run_of_advance (by rw [comma]; rfl), ih]
      simp [State.settle, State.closeGroup]

/-- Reads a selector text. -/
def parse (source : String) : Except Failure Selector := do
  let tokens ← (Token.list source).mapError fun error => .rejected (.ofLexical error)
  selectorFrom (Place.origin.after source.toList) [] tokens

/-- The descent finds what the machine finds. -/
theorem parse_eq (source : String) : parse source = (Selector.parse source).mapError .rejected := by
  rw [parse, Selector.parse]
  cases Token.list source with
  | error error => rfl
  | ok tokens => exact selectorFrom_eq _ [] tokens

end Descent

end NodeQuery.Selector
