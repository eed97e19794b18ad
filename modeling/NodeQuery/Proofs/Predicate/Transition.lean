import NodeQuery.Predicate.Parser
import NodeQuery.Proofs.Outcome
import NodeQuery.Proofs.Predicate.Grammar

/-!
# What one lexeme can do

The machine that reads predicates fails in many ways but goes on in few.  `Takes` lists them, with
the lexeme and the state that follows; where the lexeme stands in the text decides nothing.  All
that is proved of the machine's successes is proved of this relation.
-/

namespace NodeQuery.Predicate

open Grammar

/-- The segments, the latest first, behind which a path can go on. -/
def Mode.segments? : Mode → Option (List String)
  | .name first => some [first]
  | .path segments => some segments
  | _ => none

namespace State

variable {limit : Nat} {state next final : State}

/-! ## Depth -/

/-- How deep the levels around a bracket nest. -/
def enclosing (stack : List (Bracket × Level)) : Nat :=
  stack.foldr (fun (_, level) rest => level.depth + rest) 0

@[simp] theorem enclosing_nil : enclosing [] = 0 := rfl

@[simp] theorem enclosing_cons (bracket : Bracket) (level : Level)
    (stack : List (Bracket × Level)) :
    enclosing ((bracket, level) :: stack) = level.depth + enclosing stack := rfl

theorem enter_eq_ok {bracket : Bracket} :
    state.enter limit bracket = .ok next ↔
      state.level.depth + enclosing state.stack < limit ∧
        next = ⟨.operand, .fresh, (bracket, state.level) :: state.stack⟩ := by
  rw [enter, depth, ← enclosing]
  split
  case isTrue full => simp [Nat.not_lt.mpr full]
  case isFalse room => simp [Nat.lt_of_not_le room, eq_comm]

/-! ## In front of an operand -/

/-- The ways in which a lexeme is taken where an operand has to stand. -/
inductive TakesOperand (limit : Nat) (level : Level) (stack : List (Bracket × Level)) :
    Lexeme → State → Prop where
  | negate {sign : Lexeme} (symbol : NotSign sign) (free : level.comparison = none)
      (room : level.depth + enclosing stack < limit) :
      TakesOperand limit level stack sign
        ⟨.operand, { level with negations := level.negations + 1 }, stack⟩
  | literal {lexeme : Lexeme} {value : Value} (literal : Literal lexeme value) :
      TakesOperand limit level stack lexeme ⟨.value (.literal value), level, stack⟩
  | name (name : String) : TakesOperand limit level stack (.name name) ⟨.name name, level, stack⟩
  | parenthesis (room : level.depth + enclosing stack < limit) :
      TakesOperand limit level stack .openParen
        ⟨.operand, .fresh, (.parenthesis, level) :: stack⟩
  | list : TakesOperand limit level stack .openBracket ⟨.opened (.list []), level, stack⟩

/-- A negation is taken in front of the operands of a comparison, but not between them. -/
theorem takeOperand_sign_eq_ok {token : Token} (symbol : NotSign token.lexeme) :
    state.takeOperand limit token = .ok next ↔
      state.level.comparison = none ∧ state.level.depth + enclosing state.stack < limit ∧
        next = ⟨.operand, { state.level with negations := state.level.negations + 1 },
          state.stack⟩ := by
  rcases token with ⟨lexeme, start, stop⟩
  rcases state with ⟨mode, ⟨disjunct, conjunct, negations, comparison⟩, stack⟩
  cases comparison with
  | some comparison => cases symbol <;> simp [takeOperand]
  | none =>
      by_cases full : limit ≤ depth ⟨mode, ⟨disjunct, conjunct, negations, none⟩, stack⟩
      · have noRoom := Nat.not_lt.mpr full
        rw [depth, ← enclosing] at noRoom
        cases symbol <;> simp [takeOperand, full, noRoom]
      · have room := Nat.lt_of_not_le full
        rw [depth, ← enclosing] at room
        cases symbol <;> simp [takeOperand, full, room, await, eq_comm]

theorem takeOperand_eq_ok {token : Token} :
    state.takeOperand limit token = .ok next ↔
      TakesOperand limit state.level state.stack token.lexeme next := by
  rcases token with ⟨lexeme, start, stop⟩
  constructor
  · intro taken
    cases lexeme with
    | notWord =>
        rcases (takeOperand_sign_eq_ok .word).mp taken with ⟨free, room, rfl⟩
        exact .negate .word free room
    | notSign =>
        rcases (takeOperand_sign_eq_ok .sign).mp taken with ⟨free, room, rfl⟩
        exact .negate .sign free room
    | trueWord => cases taken; exact .literal .true
    | falseWord => cases taken; exact .literal .false
    | nullWord => cases taken; exact .literal .null
    | int value =>
        by_cases small : -Int.pow 2 63 ≤ value ∧ value < Int.pow 2 63
        · simp only [takeOperand, if_pos small, Except.ok.injEq] at taken
          exact taken ▸ .literal (.int small)
        · simp only [takeOperand, if_neg small, reduceCtorEq] at taken
    | float digits => cases taken; exact .literal (.float digits)
    | string value => cases taken; exact .literal (.string value)
    | name name => cases taken; exact .name name
    | openParen =>
        rcases enter_eq_ok.mp taken with ⟨room, rfl⟩
        exact .parenthesis room
    | openBracket => cases taken; exact .list
    | _ => cases taken
  · intro takes
    cases takes with
    | negate symbol free room => exact (takeOperand_sign_eq_ok symbol).mpr ⟨free, room, rfl⟩
    | literal literal =>
        cases literal with
        | int small =>
            simp only [takeOperand, if_pos small]
            rfl
        | _ => rfl
    | name name => rfl
    | parenthesis room => exact enter_eq_ok.mpr ⟨room, rfl⟩
    | list => rfl

/-! ## Behind an operand -/

/-- The ways in which a lexeme is taken behind an operand that it does not prolong. -/
inductive TakesBehind (limit : Nat) (level : Level) (stack : List (Bracket × Level))
    (operand : Expr) : Lexeme → State → Prop where
  | index (room : level.depth + enclosing stack < limit) :
      TakesBehind limit level stack operand .openBracket
        ⟨.operand, .fresh, (.index operand, level) :: stack⟩
  | and {sign : Lexeme} (joint : AndSign sign) :
      TakesBehind limit level stack operand sign ⟨.operand, level.andThen operand, stack⟩
  | or {sign : Lexeme} (joint : OrSign sign) :
      TakesBehind limit level stack operand sign ⟨.operand, level.orThen operand, stack⟩
  | compare (op : CompareOp) (free : level.comparison = none) :
      TakesBehind limit level stack operand (.compare op)
        ⟨.operand, { level with comparison := some (operand, op) }, stack⟩
  | close {lexeme : Lexeme} {bracket : Bracket} {outer : Level}
      {rest : List (Bracket × Level)} {whole : Expr} (enclosed : stack = (bracket, outer) :: rest)
      (closed : bracket.close? lexeme (level.value operand) = some whole) :
      TakesBehind limit level stack operand lexeme ⟨.value whole, outer, rest⟩
  | next {bracket further : Bracket} {outer : Level} {rest : List (Bracket × Level)}
      (enclosed : stack = (bracket, outer) :: rest)
      (goesOn : bracket.next? (level.value operand) = some further) :
      TakesBehind limit level stack operand .comma ⟨.operand, .fresh, (further, outer) :: rest⟩

/-- Only closing brackets close a bracket. -/
theorem closes_of_close? {bracket : Bracket} {lexeme : Lexeme} {last whole : Expr}
    (closed : bracket.close? lexeme last = some whole) :
    lexeme = .closeParen ∨ lexeme = .closeBracket := by
  cases bracket <;> cases lexeme <;> simp [Bracket.close?] at closed ⊢

theorem takeBehind_eq_ok {token : Token} {operand : Expr} :
    state.takeBehind limit operand token = .ok next ↔
      TakesBehind limit state.level state.stack operand token.lexeme next := by
  constructor
  · intro taken
    unfold takeBehind at taken
    split at taken
    case h_1 same =>
        rcases enter_eq_ok.mp taken with ⟨room, rfl⟩
        exact same ▸ .index room
    case h_2 same => cases taken; exact same ▸ .and .word
    case h_3 same => cases taken; exact same ▸ .and .sign
    case h_4 same => cases taken; exact same ▸ .or .word
    case h_5 same => cases taken; exact same ▸ .or .sign
    case h_6 op same =>
        split at taken
        case h_1 => cases taken
        case h_2 free => cases taken; exact same ▸ .compare op free
    case h_7 =>
        split at taken
        case h_1 => cases taken
        case h_2 bracket outer stack enclosed =>
            dsimp only at taken
            split at taken
            case h_1 whole _ closed => cases taken; exact .close enclosed closed
            case h_2 further _ goesOn =>
                split at taken
                case isTrue comma => cases taken; exact comma ▸ .next enclosed goesOn
                case isFalse => cases taken
            case h_3 => cases taken
  · intro takes
    rcases token with ⟨lexeme, start, stop⟩
    cases takes with
    | index room => exact enter_eq_ok.mpr ⟨room, rfl⟩
    | and joint => cases joint <;> rfl
    | or joint => cases joint <;> rfl
    | compare op free =>
        simp only [takeBehind, free]
        rfl
    | close enclosed closed =>
        rcases closes_of_close? closed with rfl | rfl <;>
          simp [takeBehind, enclosed, closed]
    | @next bracket further outer rest enclosed goesOn =>
        have unclosed : bracket.close? .comma (state.level.value operand) = none := by
          cases bracket <;> rfl
        simp [takeBehind, enclosed, unclosed, goesOn]

/-! ## Rows of lexemes -/

/-- The ways in which a state takes a lexeme. -/
inductive Takes (limit : Nat) : State → Lexeme → State → Prop where
  | operand {level : Level} {stack : List (Bracket × Level)} {lexeme : Lexeme} {next : State}
      (takes : TakesOperand limit level stack lexeme next) :
      Takes limit ⟨.operand, level, stack⟩ lexeme next
  | behind {state : State} {operand : Expr} {lexeme : Lexeme} {next : State}
      (read : state.operand? = some operand)
      (takes : TakesBehind limit state.level state.stack operand lexeme next) :
      Takes limit state lexeme next
  | call (name : String) (level : Level) (stack : List (Bracket × Level)) :
      Takes limit ⟨.name name, level, stack⟩ .openParen ⟨.opened (.call name []), level, stack⟩
  | dot {mode : Mode} {segments : List String} {level : Level} {stack : List (Bracket × Level)}
      (named : mode.segments? = some segments) :
      Takes limit ⟨mode, level, stack⟩ .dot ⟨.dot segments, level, stack⟩
  | segment (segments : List String) (name : String) (level : Level)
      (stack : List (Bracket × Level)) :
      Takes limit ⟨.dot segments, level, stack⟩ (.name name)
        ⟨.path (name :: segments), level, stack⟩
  | closeEmpty {bracket : Bracket} {lexeme : Lexeme} {whole : Expr} {level : Level}
      {stack : List (Bracket × Level)} (closed : bracket.closeEmpty? lexeme = some whole) :
      Takes limit ⟨.opened bracket, level, stack⟩ lexeme ⟨.value whole, level, stack⟩
  | first {bracket : Bracket} {lexeme : Lexeme} {level : Level} {stack : List (Bracket × Level)}
      {next : State} (room : level.depth + enclosing stack < limit)
      (takes : TakesOperand limit .fresh ((bracket, level) :: stack) lexeme next) :
      Takes limit ⟨.opened bracket, level, stack⟩ lexeme next

/-- An argument list or a further segment prolongs an operand. -/
theorem TakesBehind.ends {level : Level} {stack : List (Bracket × Level)} {operand : Expr}
    {lexeme : Lexeme} (takes : TakesBehind limit level stack operand lexeme next) :
    lexeme ≠ .openParen ∧ lexeme ≠ .dot := by
  cases takes with
  | and joint => cases joint <;> simp
  | or joint => cases joint <;> simp
  | close enclosed closed => rcases closes_of_close? closed with rfl | rfl <;> simp
  | _ => simp

/-- An operand does not start with a closing bracket. -/
theorem TakesOperand.closeEmpty?_eq_none {level : Level} {stack : List (Bracket × Level)}
    {lexeme : Lexeme} (bracket : Bracket) (takes : TakesOperand limit level stack lexeme next) :
    bracket.closeEmpty? lexeme = none := by
  cases takes with
  | negate symbol => cases symbol <;> cases bracket <;> rfl
  | literal literal => cases literal <;> cases bracket <;> rfl
  | _ => cases bracket <;> rfl

/-- Behind an operand that the lexeme does not prolong, the operand is complete. -/
theorem take_eq_takeBehind {operand : Expr} {token : Token} (read : state.operand? = some operand)
    (noCall : token.lexeme ≠ .openParen) (noDot : token.lexeme ≠ .dot) :
    state.take limit token = state.takeBehind limit operand token := by
  rcases token with ⟨lexeme, start, stop⟩
  rcases state with ⟨mode, level, stack⟩
  cases mode with
  | value operand =>
      cases read
      rfl
  | name name =>
      cases read
      cases lexeme with
      | openParen => exact absurd rfl noCall
      | dot => exact absurd rfl noDot
      | _ => rfl
  | path segments =>
      cases read
      cases lexeme with
      | dot => exact absurd rfl noDot
      | _ => rfl
  | _ => cases read

theorem take_eq_ok {token : Token} :
    state.take limit token = .ok next ↔ Takes limit state token.lexeme next := by
  rcases token with ⟨lexeme, start, stop⟩
  constructor
  · intro taken
    rcases state with ⟨mode, level, stack⟩
    cases mode with
    | operand => exact .operand (takeOperand_eq_ok.mp taken)
    | value operand => exact .behind rfl (takeBehind_eq_ok.mp taken)
    | name name =>
        cases lexeme with
        | openParen => cases taken; exact .call name level stack
        | dot => cases taken; exact .dot rfl
        | _ => exact .behind rfl (takeBehind_eq_ok.mp taken)
    | path segments =>
        cases lexeme with
        | dot => cases taken; exact .dot rfl
        | _ => exact .behind rfl (takeBehind_eq_ok.mp taken)
    | dot segments =>
        cases lexeme with
        | name name => cases taken; exact .segment segments name level stack
        | _ => cases taken
    | opened bracket =>
        cases closed : bracket.closeEmpty? lexeme with
        | some whole =>
            simp only [take, closed, Except.ok.injEq] at taken
            exact taken ▸ .closeEmpty closed
        | none =>
            simp only [take, closed, bind_eq_ok] at taken
            rcases taken with ⟨inner, entered, taken⟩
            rcases enter_eq_ok.mp entered with ⟨room, rfl⟩
            exact .first room (takeOperand_eq_ok.mp taken)
  · intro takes
    cases takes with
    | operand takes => exact takeOperand_eq_ok.mpr takes
    | behind read takes =>
        obtain ⟨noCall, noDot⟩ := takes.ends
        rw [take_eq_takeBehind read noCall noDot]
        exact takeBehind_eq_ok.mpr takes
    | call name level stack => rfl
    | @dot mode segments level stack named => cases mode <;> cases named <;> rfl
    | segment segments name level stack => rfl
    | closeEmpty closed =>
        simp only [take, closed]
        rfl
    | first room takes =>
        simp only [take, takes.closeEmpty?_eq_none, bind_eq_ok]
        exact ⟨_, enter_eq_ok.mpr ⟨room, rfl⟩, takeOperand_eq_ok.mpr takes⟩

/-- Reading the row leads from one state to the other. -/
inductive Reads (limit : Nat) : State → List Lexeme → State → Prop where
  | nil (state : State) : Reads limit state [] state
  | cons {state next final : State} {lexeme : Lexeme} {lexemes : List Lexeme}
      (takes : Takes limit state lexeme next) (reads : Reads limit next lexemes final) :
      Reads limit state (lexeme :: lexemes) final

theorem Reads.append {middle : State} {left right : List Lexeme}
    (front : Reads limit state left middle) (back : Reads limit middle right final) :
    Reads limit state (left ++ right) final := by
  induction front with
  | nil => exact back
  | cons takes _ ih => exact .cons takes (ih back)

theorem foldlM_take_eq_ok {tokens : List Token} :
    tokens.foldlM (take limit) state = .ok final ↔
      Reads limit state (tokens.map Token.lexeme) final := by
  induction tokens generalizing state with
  | nil =>
      rw [foldlM_nil_eq_ok]
      constructor
      · rintro rfl
        exact .nil state
      · intro reads
        cases reads
        rfl
  | cons token tokens ih =>
      simp only [foldlM_cons_eq_ok, take_eq_ok, ih]
      constructor
      · rintro ⟨next, takes, reads⟩
        exact .cons takes reads
      · intro reads
        cases reads with
        | cons takes reads => exact ⟨_, takes, reads⟩

/-- A text can end behind an operand that no bracket encloses. -/
theorem finish_eq_ok {offset : Nat} {expr : Expr} :
    state.finish limit offset = .ok expr ↔
      state.stack = [] ∧ ∃ operand, state.operand? = some operand ∧
        expr = state.level.value operand := by
  rcases state with ⟨mode, level, stack⟩
  cases mode with
  | opened bracket => simp only [finish, bind_eq_ok, operand?]; simp
  | _ => cases stack <;> simp [finish, operand?, eq_comm]

end State

/-- A row is accepted if it leads to an operand that no bracket encloses. -/
theorem ofTokens_eq_ok_iff_reads {limit offset : Nat} {tokens : List Token} {expr : Expr} :
    Expr.ofTokens limit offset tokens = .ok expr ↔
      0 < limit ∧ ∃ final, State.Reads limit .initial (tokens.map Token.lexeme) final ∧
        final.stack = [] ∧ ∃ operand, final.operand? = some operand ∧
          expr = final.level.value operand := by
  unfold Expr.ofTokens
  split
  case isTrue empty =>
      rw [List.isEmpty_iff] at empty
      subst empty
      constructor
      · nofun
      · rintro ⟨-, final, reads, -, operand, read, -⟩
        cases reads
        cases read
  case isFalse =>
      split
      case isTrue none => simp [none]
      case isFalse some =>
          simp only [bind_eq_ok, State.foldlM_take_eq_ok, State.finish_eq_ok,
            Nat.pos_of_ne_zero some, true_and]

end NodeQuery.Predicate
