import NodeQuery.Proofs.Predicate.Transition

/-!
# The nesting limit as a threshold

Whatever the limit does to the reading of a predicate, it does at one place: the first level or
negation that is opened beyond it.  So each step of the reading has a nesting that it needs.  Below
that the step is too deep, and from there on its outcome does not depend on the limit.  Steps in a
row need what the most demanding of them needs.

A token opens one level or negation; that of a list or call is opened by the token behind the
bracket.  So a text needs at most one more than it has tokens.
-/

namespace NodeQuery.Predicate

open Grammar

/-! ## Attempts under all limits -/

/-- Attempts under all limits are too deep below the needed one.  From there on they have the given
outcome, which is not the error of a limit. -/
structure Settles {α : Type} (attempt : Nat → Except SyntaxError α) (needed : Nat)
    (outcome : Except SyntaxError α) : Prop where
  malformed : ∀ error, outcome = .error error → error.malformed?.isSome = true
  tooDeep : ∀ limit, limit < needed → attempt limit = .error (.tooDeep limit)
  settled : ∀ limit, needed ≤ limit → attempt limit = outcome

/-- The attempts settle at no higher limit than the bound. -/
def SettlesWithin {α : Type} (bound : Nat) (attempt : Nat → Except SyntaxError α) : Prop :=
  ∃ needed outcome, needed ≤ bound ∧ Settles attempt needed outcome

namespace SettlesWithin

variable {α β : Type} {bound : Nat} {attempt : Nat → Except SyntaxError α}

/-- What does not look at the limit settles at once. -/
theorem const {outcome : Except SyntaxError α}
    (malformed : ∀ error, outcome = .error error → error.malformed?.isSome = true) :
    SettlesWithin bound fun _ => outcome :=
  ⟨0, outcome, Nat.zero_le bound, malformed, fun _ below => absurd below (Nat.not_lt_zero _),
    fun _ _ => rfl⟩

theorem ok (value : α) : SettlesWithin bound fun _ => .ok value :=
  const nofun

theorem error {error : SyntaxError} (malformed : error.malformed?.isSome = true) :
    SettlesWithin (α := α) bound fun _ => .error error := by
  apply const
  intro other same
  cases same
  exact malformed

theorem mono {larger : Nat} (settles : SettlesWithin bound attempt) (le : bound ≤ larger) :
    SettlesWithin larger attempt := by
  obtain ⟨needed, outcome, fits, settles⟩ := settles
  exact ⟨needed, outcome, Nat.le_trans fits le, settles⟩

/-- Behind a limit that has to be exceeded, one more is needed. -/
theorem guard {depth : Nat} (room : depth < bound) (settles : SettlesWithin bound attempt) :
    SettlesWithin bound fun limit =>
      if limit ≤ depth then .error (.tooDeep limit) else attempt limit := by
  obtain ⟨needed, outcome, fits, settles⟩ := settles
  refine ⟨max (depth + 1) needed, outcome, Nat.max_le.mpr ⟨room, fits⟩, settles.malformed,
    ?_, ?_⟩
  · intro limit below
    by_cases shallow : limit ≤ depth
    · exact if_pos shallow
    · exact (if_neg shallow).trans (settles.tooDeep limit (by omega))
  · intro limit enough
    have deeper : ¬ limit ≤ depth := by omega
    exact (if_neg deeper).trans (settles.settled limit (by omega))

/-- A second attempt behind a first one that succeeds; behind one that fails nothing comes. -/
theorem bind {onward : Nat → α → Except SyntaxError β} (first : SettlesWithin bound attempt)
    (second : ∀ value limit, attempt limit = .ok value →
      SettlesWithin bound fun limit => onward limit value) :
    SettlesWithin bound fun limit => attempt limit >>= onward limit := by
  obtain ⟨needed, outcome, fits, settles⟩ := first
  have early (limit : Nat) (below : limit < needed) :
      attempt limit >>= onward limit = .error (.tooDeep limit) := by
    rw [settles.tooDeep limit below]
    rfl
  cases outcome with
  | error error =>
      refine ⟨needed, .error error, fits, ?_, early, ?_⟩
      · intro other same
        cases same
        exact settles.malformed error rfl
      · intro limit enough
        rw [settles.settled limit enough]
        rfl
  | ok value =>
      obtain ⟨further, outcome, fits', settles'⟩ :=
        second value needed (settles.settled needed (Nat.le_refl needed))
      have reached (limit : Nat) (enough : needed ≤ limit) :
          attempt limit >>= onward limit = onward limit value := by
        rw [settles.settled limit enough]
        rfl
      refine ⟨max needed further, outcome, Nat.max_le.mpr ⟨fits, fits'⟩, settles'.malformed,
        ?_, ?_⟩
      · intro limit below
        by_cases enough : needed ≤ limit
        · exact (reached limit enough).trans (settles'.tooDeep limit (by omega))
        · exact early limit (Nat.lt_of_not_le enough)
      · intro limit enough
        exact (reached limit (by omega)).trans (settles'.settled limit (by omega))

end SettlesWithin

namespace State

/-! ## How far a token reaches -/

/-- The number of open levels and negations.  A list that has just been opened may still turn out to
be empty, but the level of its first element counts already. -/
def reach (state : State) : Nat :=
  match state.mode with
  | .opened _ => state.depth + 1
  | _ => state.depth

variable {limit : Nat} {state next final : State} {level : Level} {stack : List (Bracket × Level)}
variable {lexeme : Lexeme}

theorem depth_eq (state : State) : state.depth = state.level.depth + enclosing state.stack := rfl

theorem depth_le_reach (state : State) : state.depth ≤ state.reach := by
  unfold reach
  split
  · exact Nat.le_succ _
  · exact Nat.le_refl _

theorem TakesOperand.reach_le (takes : TakesOperand limit level stack lexeme next) :
    next.reach ≤ level.depth + enclosing stack + 1 := by
  cases takes with
  | negate symbol free room =>
      simp only [reach, depth_eq, Level.depth]
      omega
  | literal literal => exact Nat.le_succ _
  | name name => exact Nat.le_succ _
  | parenthesis room =>
      simp only [reach, depth_eq, enclosing_cons, Level.depth, Level.fresh]
      omega
  | list => exact Nat.le_refl _

/-- What joins an operand to its left operands drops the negations in front of it. -/
theorem TakesBehind.reach_le {operand : Expr}
    (takes : TakesBehind limit level stack operand lexeme next) :
    next.reach ≤ level.depth + enclosing stack + 1 := by
  cases takes with
  | index room =>
      simp only [reach, depth_eq, enclosing_cons, Level.depth, Level.fresh]
      omega
  | and joint =>
      simp only [reach, depth_eq, Level.depth, Level.andThen]
      omega
  | or joint =>
      simp only [reach, depth_eq, Level.depth, Level.orThen]
      omega
  | compare op free => exact Nat.le_succ _
  | close enclosed closed =>
      subst enclosed
      simp only [reach, depth_eq, enclosing_cons]
      omega
  | next enclosed goesOn =>
      subst enclosed
      simp only [reach, depth_eq, enclosing_cons, Level.depth, Level.fresh]
      omega

/-- A token reaches at most one further than the tokens in front of it. -/
theorem Takes.reach_le (takes : Takes limit state lexeme next) :
    next.reach ≤ state.reach + 1 := by
  cases takes with
  | operand takes => exact takes.reach_le
  | behind read takes =>
      exact Nat.le_trans takes.reach_le (Nat.succ_le_succ state.depth_le_reach)
  | call name level stack => exact Nat.le_refl _
  | @dot mode segments level stack named =>
      exact Nat.le_succ_of_le (depth_le_reach ⟨mode, level, stack⟩)
  | segment segments name level stack => exact Nat.le_succ _
  | closeEmpty closed =>
      simp only [reach, depth_eq]
      omega
  | first room takes =>
      have inner := takes.reach_le
      simp only [reach, depth_eq, enclosing_cons, Level.depth, Level.fresh] at inner ⊢
      omega

/-! ## What a token needs -/

theorem enter_settles (bracket : Bracket) :
    SettlesWithin (state.depth + 1) fun limit => state.enter limit bracket :=
  .guard (Nat.lt_succ_self _) (.ok _)

/-- A negation looks at the limit, unless it stands between the operands of a comparison. -/
theorem takeOperand_sign_settles (state : State) {token : Token} (symbol : NotSign token.lexeme) :
    SettlesWithin (state.depth + 1) fun limit => state.takeOperand limit token := by
  rcases token with ⟨lexeme, start, stop⟩
  rcases state with ⟨mode, ⟨disjunct, conjunct, negations, comparison⟩, stack⟩
  cases comparison with
  | some comparison =>
      cases symbol with
      | word => exact .error rfl
      | sign => exact .error rfl
  | none =>
      cases symbol with
      | word => exact .guard (Nat.lt_succ_self _) (.ok _)
      | sign => exact .guard (Nat.lt_succ_self _) (.ok _)

theorem takeOperand_settles (state : State) (token : Token) :
    SettlesWithin (state.depth + 1) fun limit => state.takeOperand limit token := by
  rcases token with ⟨lexeme, start, stop⟩
  cases lexeme with
  | notWord => exact takeOperand_sign_settles state .word
  | notSign => exact takeOperand_sign_settles state .sign
  | openParen => exact enter_settles .parenthesis
  | int value =>
      by_cases small : -Int.pow 2 63 ≤ value ∧ value < Int.pow 2 63
      · simp only [takeOperand, if_pos small]
        exact .ok _
      · simp only [takeOperand, if_neg small]
        exact .error rfl
  | trueWord => exact .ok _
  | falseWord => exact .ok _
  | nullWord => exact .ok _
  | float digits => exact .ok _
  | string value => exact .ok _
  | name name => exact .ok _
  | openBracket => exact .ok _
  | _ => exact .error rfl

/-- Behind an operand, a lexeme that opens no level can only stand where it must not. -/
theorem malformed_of_takeBehind {token : Token} {operand : Expr} {error : SyntaxError}
    (closed : token.lexeme ≠ .openBracket)
    (failed : state.takeBehind limit operand token = .error error) :
    error.malformed?.isSome = true := by
  unfold takeBehind at failed
  split at failed
  case h_1 opens => exact absurd opens closed
  case h_6 =>
      split at failed
      · cases failed
        rfl
      · cases failed
  case h_7 =>
      split at failed
      case h_1 =>
          cases failed
          rfl
      case h_2 =>
          dsimp only at failed
          split at failed
          case h_1 => cases failed
          case h_2 =>
              split at failed
              · cases failed
              · cases failed
                rfl
          case h_3 =>
              cases failed
              rfl
  all_goals cases failed

/-- Of the lexemes behind an operand, only an opening bracket looks at the limit. -/
theorem takeBehind_settles (state : State) (operand : Expr) (token : Token) :
    SettlesWithin (state.depth + 1) fun limit => state.takeBehind limit operand token := by
  by_cases opens : token.lexeme = .openBracket
  · rcases token with ⟨lexeme, start, stop⟩
    cases opens
    exact enter_settles (.index operand)
  · have unlimited (limit : Nat) :
        state.takeBehind limit operand token = state.takeBehind 0 operand token := by
      rcases token with ⟨lexeme, start, stop⟩
      cases lexeme with
      | openBracket => exact absurd rfl opens
      | _ => rfl
    simp only [unlimited]
    exact .const fun _ failed => malformed_of_takeBehind opens failed

theorem take_settles (state : State) (token : Token) :
    SettlesWithin (state.reach + 1) fun limit => state.take limit token := by
  rcases token with ⟨lexeme, start, stop⟩
  rcases state with ⟨mode, level, stack⟩
  have behind {mode : Mode} {operand : Expr} {lexeme : Lexeme}
      (read : State.operand? ⟨mode, level, stack⟩ = some operand)
      (noCall : lexeme ≠ .openParen) (noDot : lexeme ≠ .dot) :
      SettlesWithin (State.depth ⟨mode, level, stack⟩ + 1)
        fun limit => State.take limit ⟨mode, level, stack⟩ ⟨lexeme, start, stop⟩ := by
    have taken (limit : Nat) : State.take limit ⟨mode, level, stack⟩ ⟨lexeme, start, stop⟩ =
        State.takeBehind limit ⟨mode, level, stack⟩ operand ⟨lexeme, start, stop⟩ :=
      take_eq_takeBehind read noCall noDot
    simp only [taken]
    exact takeBehind_settles _ _ _
  cases mode with
  | operand => exact takeOperand_settles _ _
  | value operand => exact takeBehind_settles _ operand _
  | name name =>
      cases lexeme with
      | openParen => exact .ok _
      | dot => exact .ok _
      | _ => exact behind rfl nofun nofun
  | path segments =>
      cases lexeme with
      | dot => exact .ok _
      | openParen =>
          exact takeBehind_settles ⟨.path segments, level, stack⟩ (.path segments.reverse)
            ⟨.openParen, start, stop⟩
      | _ => exact behind rfl nofun nofun
  | dot segments =>
      cases lexeme with
      | name name => exact .ok _
      | _ => exact .error rfl
  | opened bracket =>
      cases closed : bracket.closeEmpty? lexeme with
      | some operand =>
          simp only [take, closed]
          exact .ok _
      | none =>
          simp only [take, closed]
          apply SettlesWithin.bind ((enter_settles bracket).mono (Nat.le_succ _))
          intro inner limit entered
          obtain ⟨room, rfl⟩ := enter_eq_ok.mp entered
          apply (takeOperand_settles _ _).mono
          simp only [depth_eq, enclosing_cons, Level.depth, Level.fresh]
          omega

/-- Tokens need one more each than what has been reached in front of them. -/
theorem foldlM_take_settles (tokens : List Token) (state : State) :
    SettlesWithin (state.reach + tokens.length) fun limit => tokens.foldlM (take limit) state := by
  induction tokens generalizing state with
  | nil => exact .ok state
  | cons token tokens ih =>
      simp only [List.foldlM_cons, List.length_cons]
      apply SettlesWithin.bind ((take_settles state token).mono (by omega))
      intro next limit taken
      have reached := (take_eq_ok.mp taken).reach_le
      exact (ih next).mono (by omega)

theorem reach_le_of_foldlM {tokens : List Token}
    (read : tokens.foldlM (take limit) state = .ok final) :
    final.reach ≤ state.reach + tokens.length := by
  induction tokens generalizing state with
  | nil =>
      cases foldlM_nil_eq_ok.mp read
      exact Nat.le_refl _
  | cons token tokens ih =>
      obtain ⟨next, taken, read⟩ := foldlM_cons_eq_ok.mp read
      have reached := (take_eq_ok.mp taken).reach_le
      have rest := ih read
      rw [List.length_cons]
      omega

/-- At the end of the text, only a list that has just been opened looks at the limit. -/
theorem finish_settles (state : State) (offset : Nat) :
    SettlesWithin state.reach fun limit => state.finish limit offset := by
  rcases state with ⟨mode, level, stack⟩
  cases mode with
  | opened bracket =>
      apply SettlesWithin.bind (enter_settles bracket)
      intro inner limit entered
      exact .error rfl
  | operand => exact .error rfl
  | dot segments => exact .error rfl
  | _ =>
      cases stack with
      | nil => exact .ok _
      | cons enclosing stack => exact .error rfl

end State

/-! ## Whole predicates -/

theorem ofTokens_settles (offset : Nat) (tokens : List Token) :
    SettlesWithin (tokens.length + 1) fun limit => Expr.ofTokens limit offset tokens := by
  cases tokens with
  | nil => exact .error rfl
  | cons token tokens =>
      -- The level of the whole text is opened like any other.
      have entered (limit : Nat) : Expr.ofTokens limit offset (token :: tokens) =
          if limit ≤ 0 then .error (.tooDeep limit)
          else (token :: tokens).foldlM (State.take limit) State.initial >>= fun state =>
            state.finish limit offset := by
        cases limit with
        | zero => rfl
        | succ limit => rfl
      simp only [entered]
      apply SettlesWithin.guard (Nat.succ_pos _)
      have initial : State.initial.reach = 1 := rfl
      apply SettlesWithin.bind
      · exact (State.foldlM_take_settles _ _).mono (by omega)
      · intro final limit read
        have reached := State.reach_le_of_foldlM read
        exact (State.finish_settles final offset).mono (by omega)

/-- The number of tokens of a text; none if it has characters with which no token starts. -/
def tokenCount (source : String) : Nat :=
  match Token.list source with
  | .ok tokens => tokens.length
  | .error _ => 0

theorem parse_settles (source : String) :
    SettlesWithin (tokenCount source + 1) fun limit => parse source limit := by
  unfold tokenCount parse
  cases Token.list source with
  | error error => exact .error rfl
  | ok tokens => exact ofTokens_settles _ tokens

/-- Each text needs a nesting of its own, at most one more than it has tokens.  Under every limit
below that, the text is too deep; under all others it is the same expression, or malformed in the
same way. -/
theorem limit_is_threshold (source : String) :
    ∃ needed outcome, needed ≤ tokenCount source + 1 ∧
      (∀ error, outcome = .error error → error.malformed?.isSome = true) ∧
      ∀ limit, (limit < needed → parse source limit = .error (.tooDeep limit)) ∧
        (needed ≤ limit → parse source limit = outcome) := by
  obtain ⟨needed, outcome, fits, settles⟩ := parse_settles source
  exact ⟨needed, outcome, fits, settles.malformed,
    fun limit => ⟨settles.tooDeep limit, settles.settled limit⟩⟩

/-- A negation in a list nests three levels deep, whatever brackets stand beside it. -/
theorem limit_is_threshold_of_negation :
    let read : Except SyntaxError Expr := .ok (.list [.path ["x"], .not (.path ["y"])])
    (∀ limit, limit < 3 → parse "[(x), not y]" limit = .error (.tooDeep limit)) ∧
      ∀ limit, 3 ≤ limit → parse "[(x), not y]" limit = read := by
  intro read
  obtain ⟨needed, outcome, _, malformed, threshold⟩ := limit_is_threshold "[(x), not y]"
  -- The lexer recurses on the length of what is left, which `rfl` alone does not unfold.
  have shallow : parse "[(x), not y]" 2 = .error (.tooDeep 2) := by with_unfolding_all rfl
  have enough : parse "[(x), not y]" 3 = read := by with_unfolding_all rfl
  have above : 2 < needed := by
    apply Nat.lt_of_not_le
    intro below
    have same : outcome = .error (.tooDeep 2) := ((threshold 2).2 below).symm.trans shallow
    exact absurd (malformed _ same) Bool.false_ne_true
  have reached : needed ≤ 3 := by
    apply Nat.le_of_not_lt
    intro beyond
    have tooDeep := (threshold 3).1 beyond
    simp only [enough, read, reduceCtorEq] at tooDeep
  have same : outcome = read := ((threshold 3).2 reached).symm.trans enough
  constructor
  · intro limit below
    exact (threshold limit).1 (Nat.lt_of_lt_of_le below above)
  · intro limit room
    exact ((threshold limit).2 (Nat.le_trans reached room)).trans same

end NodeQuery.Predicate
