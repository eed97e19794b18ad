import NodeQuery.Proofs.Predicate.Derivation

/-!
# The machine recognizes the grammar of predicates

Each state determines what the lexemes read so far are made of (`State.Shows`), and the next lexeme
adds to that.  What an open level may still nest is the limit less what encloses it, so whatever is
complete nests no deeper than there is room for it.
-/

namespace NodeQuery.Predicate

open Grammar

/-! ## Phrases that fit -/

namespace Grammar

/-- The row stands for the value and nests no deeper than there is room. -/
def Within {α : Type} (phrase : List Lexeme → α → Nat → Prop) (room : Nat)
    (lexemes : List Lexeme) (value : α) : Prop :=
  ∃ nesting ≤ room, phrase lexemes value nesting

namespace Within

section

variable {α β γ : Type} {phrase : List Lexeme → α → Nat → Prop}
  {other : List Lexeme → β → Nat → Prop} {whole : List Lexeme → γ → Nat → Prop} {room : Nat}
  {left right row : List Lexeme} {first : α} {last : β} {made : γ}

theorem mono {more : Nat} (within : Within phrase room left first) (le : room ≤ more) :
    Within phrase more left first := by
  rcases within with ⟨nesting, fits, derives⟩
  exact ⟨nesting, Nat.le_trans fits le, derives⟩

/-- A rule that does not nest needs no more room. -/
theorem map (within : Within phrase room left first)
    (rule : ∀ nesting, phrase left first nesting → whole row made nesting) :
    Within whole room row made := by
  rcases within with ⟨nesting, fits, derives⟩
  exact ⟨nesting, fits, rule nesting derives⟩

/-- A rule that nests needs one more. -/
theorem deepen (within : Within phrase room left first)
    (rule : ∀ nesting, phrase left first nesting → whole row made (nesting + 1)) :
    Within whole (room + 1) row made := by
  rcases within with ⟨nesting, fits, derives⟩
  exact ⟨nesting + 1, Nat.succ_le_succ fits, rule nesting derives⟩

/-- Two phrases side by side share the room. -/
theorem join (before : Within phrase room left first) (behind : Within other room right last)
    (rule : ∀ leftNesting rightNesting, phrase left first leftNesting →
      other right last rightNesting → whole row made (max leftNesting rightNesting)) :
    Within whole room row made := by
  rcases before with ⟨leftNesting, leftFits, before⟩
  rcases behind with ⟨rightNesting, rightFits, behind⟩
  exact ⟨_, Nat.max_le.mpr ⟨leftFits, rightFits⟩, rule _ _ before behind⟩

end

variable {room : Nat} {left right : List Lexeme} {first last : Expr} {exprs : List Expr}
  {sign : Lexeme}

theorem disjunction (conjunction : Within Conjunction room left first) :
    Within Disjunction room left first :=
  conjunction.map fun _ => .one

theorem or (before : Within Disjunction room left first) (joint : OrSign sign)
    (behind : Within Conjunction room right last) :
    Within Disjunction room (left ++ sign :: right) (.or first last) :=
  before.join behind fun _ _ before behind => .more before joint behind

theorem conjunction (negation : Within Negation room left first) :
    Within Conjunction room left first :=
  negation.map fun _ => .one

theorem and (before : Within Conjunction room left first) (joint : AndSign sign)
    (behind : Within Negation room right last) :
    Within Conjunction room (left ++ sign :: right) (.and first last) :=
  before.join behind fun _ _ before behind => .more before joint behind

theorem negation (comparison : Within Comparison room left first) :
    Within Negation room left first :=
  comparison.map fun _ => .none

theorem not (symbol : NotSign sign) (negation : Within Negation room left first) :
    Within Negation (room + 1) (sign :: left) (.not first) :=
  negation.deepen fun _ => .not symbol

theorem comparison (indexing : Within Indexing room left first) :
    Within Comparison room left first :=
  indexing.map fun _ => .none

theorem compare (before : Within Indexing room left first) (op : CompareOp)
    (behind : Within Indexing room right last) :
    Within Comparison room (left ++ .compare op :: right) (.compare op first last) :=
  before.join behind fun _ _ before behind => .compare before op behind

theorem index (before : Within Indexing room left first)
    (inside : Within Expression room right last) :
    Within Indexing room (left ++ .openBracket :: (right ++ [.closeBracket]))
      (.index first last) :=
  before.join inside fun _ _ => .index

theorem parenthesis (inside : Within Expression room left first) :
    Within Indexing room (.openParen :: (left ++ [.closeParen])) first :=
  inside.map fun _ inside => .none (.parenthesis inside)

theorem row {opening : List Lexeme} {make : List Expr → Bracket} {close : Lexeme}
    {whole : List Expr → Expr} (row : Row opening make close whole)
    (items : Within Items room left exprs) :
    Within Indexing room (opening ++ (left ++ [close])) (whole exprs) :=
  items.map fun _ items => .none (row.operand items)

theorem items (elements : Within Elements room left exprs) : Within Items room left exprs :=
  elements.map fun _ => .some

theorem element (expression : Within Expression room left first) :
    Within Elements room left [first] :=
  expression.map fun _ => .one

theorem elements (before : Within Elements room left exprs)
    (behind : Within Expression room right last) :
    Within Elements room (left ++ .comma :: right) (exprs ++ [last]) :=
  before.join behind fun _ _ => .more

theorem expression (disjunction : Within Disjunction room left first) :
    Within Expression (room + 1) left first :=
  disjunction.deepen fun _ => .nested

end Within

end Grammar

/-! ## Levels show what waits in them -/

/-- The lexemes of a left operand and its connective, if there is one. -/
inductive Waits (phrase : List Lexeme → Expr → Prop) (joint : Lexeme → Prop) :
    Option Expr → List Lexeme → Prop where
  | none : Waits phrase joint none []
  | some {lexemes : List Lexeme} {left : Expr} {sign : Lexeme} (before : phrase lexemes left)
      (symbol : joint sign) : Waits phrase joint (some left) (lexemes ++ [sign])

/-- As many signs of negation as are counted. -/
inductive Negated : Nat → List Lexeme → Prop where
  | none : Negated 0 []
  | more {count : Nat} {signs : List Lexeme} {sign : Lexeme} (negated : Negated count signs)
      (symbol : NotSign sign) : Negated (count + 1) (signs ++ [sign])

/-- The lexemes of a left operand and its operator, if there is one. -/
inductive Compared (room : Nat) : Option (Expr × CompareOp) → List Lexeme → Prop where
  | none : Compared room none []
  | some {lexemes : List Lexeme} {left : Expr} (before : Within Indexing room lexemes left)
      (op : CompareOp) : Compared room (some (left, op)) (lexemes ++ [.compare op])

/-- What the lexemes of an open level are made of.  The room is what the limit leaves inside the
negations. -/
inductive Level.Shows (room : Nat) : Level → List Lexeme → Prop where
  | intro {disjunct conjunct : Option Expr} {negations : Nat}
      {comparison : Option (Expr × CompareOp)} {front middle signs back : List Lexeme}
      (or : Waits (Within Disjunction (negations + room)) OrSign disjunct front)
      (and : Waits (Within Conjunction (negations + room)) AndSign conjunct middle)
      (not : Negated negations signs) (compare : Compared room comparison back) :
      Shows room ⟨disjunct, conjunct, negations, comparison⟩ (front ++ middle ++ signs ++ back)

theorem Negated.negation {room count : Nat} {signs row : List Lexeme} {operand : Expr}
    (negated : Negated count signs) (inner : Within Negation room row operand) :
    Within Negation (count + room) (signs ++ row) (Level.negate count operand) := by
  induction negated generalizing room row operand with
  | none => simpa [Level.negate] using inner
  | @more count signs sign negated symbol ih =>
      have longer := ih (inner.not symbol)
      rw [negate_not] at longer
      simpa [Level.negate, Nat.add_assoc, Nat.add_comm 1] using longer

namespace Level.Shows

variable {room : Nat} {level : Level} {lexemes row : List Lexeme} {operand : Expr} {sign : Lexeme}

theorem fresh : Level.fresh.Shows room [] := .intro .none .none .none .none

/-- An operand completes all that binds tighter than `or`. -/
theorem conjoined (waiting : level.Shows room lexemes) (behind : Within Indexing room row operand) :
    ∃ front back, lexemes = front ++ back ∧
      Waits (Within Disjunction (level.negations + room)) OrSign level.disjunct front ∧
      Within Conjunction (level.negations + room) (back ++ row) (level.conjoined operand) := by
  rcases waiting with ⟨or, and, not, compare⟩
  rename_i disjunct conjunct negations comparison front middle signs back
  have compared : Within Comparison room (back ++ row)
      (Level.compared ⟨disjunct, conjunct, negations, comparison⟩ operand) := by
    cases compare with
    | none => exact behind.comparison
    | some before op => simpa [Level.compared] using before.compare op behind
  have negated := not.negation compared.negation
  refine ⟨front, middle ++ signs ++ back, by simp, or, ?_⟩
  cases and with
  | none => simpa [Level.conjoined, Level.negated] using negated.conjunction
  | some before symbol =>
      simpa [Level.conjoined, Level.negated] using before.and symbol negated

theorem value (waiting : level.Shows room lexemes) (behind : Within Indexing room row operand) :
    Within Disjunction (level.negations + room) (lexemes ++ row) (level.value operand) := by
  rcases waiting.conjoined behind with ⟨front, back, rfl, or, conjoined⟩
  rcases level with ⟨disjunct, conjunct, negations, comparison⟩
  cases or with
  | none => simpa [Level.value] using conjoined.disjunction
  | some before symbol => simpa [Level.value] using before.or symbol conjoined

theorem andThen (waiting : level.Shows room lexemes) (behind : Within Indexing room row operand)
    (symbol : AndSign sign) :
    (level.andThen operand).Shows (level.negations + room) (lexemes ++ (row ++ [sign])) := by
  rcases waiting.conjoined behind with ⟨front, back, rfl, or, conjoined⟩
  rw [← Nat.zero_add (level.negations + room)] at or conjoined
  simpa [Level.andThen] using Shows.intro or (.some conjoined symbol) .none .none

theorem orThen (waiting : level.Shows room lexemes) (behind : Within Indexing room row operand)
    (symbol : OrSign sign) :
    (level.orThen operand).Shows (level.negations + room) (lexemes ++ (row ++ [sign])) := by
  have made := waiting.value behind
  rw [← Nat.zero_add (level.negations + room)] at made
  simpa [Level.orThen] using Shows.intro (.some made symbol) .none .none .none

theorem not (waiting : level.Shows (room + 1) lexemes) (free : level.comparison = none)
    (symbol : NotSign sign) :
    Shows room { level with negations := level.negations + 1 } (lexemes ++ [sign]) := by
  rcases waiting with ⟨or, and, not, compare⟩
  subst free
  cases compare
  rw [← Nat.add_assoc, Nat.add_right_comm] at or and
  simpa using Shows.intro or and (.more not symbol) .none

theorem compare (waiting : level.Shows room lexemes) (free : level.comparison = none)
    (behind : Within Indexing room row operand) (op : CompareOp) :
    Shows room { level with comparison := some (operand, op) }
      (lexemes ++ (row ++ [.compare op])) := by
  rcases waiting with ⟨or, and, not, compare⟩
  subst free
  cases compare
  simpa using Shows.intro or and not (.some behind op)

end Level.Shows

/-! ## States show what has been read -/

/-- The lexemes of an open bracket.  The room is for the expression that comes next. -/
inductive Bracket.Shows (room : Nat) : Bracket → List Lexeme → Prop where
  | parenthesis : Shows room .parenthesis [.openParen]
  | index {lexemes : List Lexeme} {target : Expr}
      (before : Within Indexing (room + 1) lexemes target) :
      Shows room (.index target) (lexemes ++ [.openBracket])
  | first {opening : List Lexeme} {make : List Expr → Bracket} {close : Lexeme}
      {whole : List Expr → Expr} (row : Row opening make close whole) :
      Shows room (make []) opening
  | further {opening lexemes : List Lexeme} {make : List Expr → Bracket} {close : Lexeme}
      {whole : List Expr → Expr} {exprs : List Expr} (row : Row opening make close whole)
      (elements : Within Elements (room + 1) lexemes exprs) :
      Shows room (make exprs.reverse) (opening ++ lexemes ++ [.comma])

/-- What stands around the innermost level, which has the given room. -/
inductive Enclosed (limit : Nat) : List (Bracket × Level) → List Lexeme → Nat → Prop where
  | text {room : Nat} (fits : room + 1 = limit) : Enclosed limit [] [] room
  | bracket {stack : List (Bracket × Level)} {level : Level} {bracket : Bracket}
      {front before opening : List Lexeme} {room : Nat}
      (around : Enclosed limit stack front (level.negations + (room + 1)))
      (waiting : level.Shows (room + 1) before) (opened : bracket.Shows room opening) :
      Enclosed limit ((bracket, level) :: stack) (front ++ before ++ opening) room

/-- What has been read of the operand at hand. -/
inductive Mode.Shows (room : Nat) : Mode → List Lexeme → Prop where
  | operand : Shows room .operand []
  | value {lexemes : List Lexeme} {expr : Expr} (read : Within Indexing room lexemes expr) :
      Shows room (.value expr) lexemes
  | name (name : String) : Shows room (.name name) [.name name]
  | path {lexemes : List Lexeme} {segments : List String} (path : Path lexemes segments.reverse) :
      Shows room (.path segments) lexemes
  | dot {lexemes : List Lexeme} {segments : List String} (path : Path lexemes segments.reverse) :
      Shows room (.dot segments) (lexemes ++ [.dot])
  | opened {opening : List Lexeme} {make : List Expr → Bracket} {close : Lexeme}
      {whole : List Expr → Expr} (row : Row opening make close whole) :
      Shows room (.opened (make [])) opening

/-- What all lexemes read so far are made of. -/
inductive State.Shows (limit : Nat) : State → List Lexeme → Prop where
  | intro {mode : Mode} {level : Level} {stack : List (Bracket × Level)}
      {front before current : List Lexeme} {room : Nat}
      (around : Enclosed limit stack front (level.negations + room))
      (waiting : level.Shows room before) (reading : mode.Shows room current) :
      Shows limit ⟨mode, level, stack⟩ (front ++ before ++ current)

theorem Enclosed.enclosing_add {limit room : Nat} {stack : List (Bracket × Level)}
    {lexemes : List Lexeme} (around : Enclosed limit stack lexemes room) :
    State.enclosing stack + room + 1 = limit := by
  induction around with
  | text fits => simpa using fits
  | bracket around waiting opened ih =>
      simp only [State.enclosing_cons, Level.depth]
      omega

/-- Below the limit there is room for one more. -/
theorem Enclosed.room {limit room : Nat} {level : Level} {stack : List (Bracket × Level)}
    {lexemes : List Lexeme} (around : Enclosed limit stack lexemes (level.negations + room))
    (below : level.depth + State.enclosing stack < limit) : ∃ rest, room = rest + 1 := by
  have total := around.enclosing_add
  rw [Level.depth] at below
  exact Nat.exists_eq_succ_of_ne_zero (by omega)

/-- A row of lexemes that can be indexed, and for which the mode stands. -/
theorem Mode.Shows.indexing {room : Nat} {mode : Mode} {level : Level}
    {stack : List (Bracket × Level)} {lexemes : List Lexeme} {operand : Expr}
    (shown : mode.Shows room lexemes)
    (read : State.operand? ⟨mode, level, stack⟩ = some operand) :
    Within Indexing room lexemes operand := by
  cases shown with
  | value inner => cases read; exact inner
  | name name => cases read; exact ⟨0, Nat.zero_le _, .none (.path (.one name))⟩
  | path path => cases read; exact ⟨0, Nat.zero_le _, .none (.path path)⟩
  | _ => cases read

theorem Mode.Shows.path_of_segments? {room : Nat} {mode : Mode} {lexemes : List Lexeme}
    {segments : List String} (shown : mode.Shows room lexemes)
    (named : mode.segments? = some segments) : Path lexemes segments.reverse := by
  cases shown with
  | name name => cases named; exact .one name
  | path path => cases named; exact path
  | _ => cases named

namespace Bracket.Shows

variable {room : Nat} {bracket : Bracket} {opening lexemes : List Lexeme} {last : Expr}
  {lexeme : Lexeme}

/-- The elements of a row up to the last one. -/
theorem close {whole : Expr} (opened : bracket.Shows room opening)
    (inside : Within Disjunction room lexemes last)
    (closed : bracket.close? lexeme last = some whole) :
    Within Indexing (room + 1) (opening ++ lexemes ++ [lexeme]) whole := by
  have expression := inside.expression
  cases opened with
  | parenthesis =>
      cases lexeme <;> cases closed
      simpa using expression.parenthesis
  | index before =>
      cases lexeme <;> cases closed
      simpa using before.index expression
  | first row =>
      rcases row.close?_eq_some.mp closed with ⟨rfl, rfl⟩
      simpa using expression.element.items.row row
  | further row elements =>
      rcases row.close?_eq_some.mp closed with ⟨rfl, rfl⟩
      simpa using (elements.elements expression).items.row row

theorem next {further : Bracket} (opened : bracket.Shows room opening)
    (inside : Within Disjunction room lexemes last)
    (goesOn : bracket.next? last = some further) :
    further.Shows room (opening ++ lexemes ++ [.comma]) := by
  have expression := inside.expression
  cases opened with
  | parenthesis => cases goesOn
  | index before => cases goesOn
  | first row =>
      rw [row.next?_eq] at goesOn
      cases goesOn
      simpa using Shows.further row expression.element
  | further row elements =>
      rw [row.next?_eq] at goesOn
      cases goesOn
      simpa using Shows.further row (elements.elements expression)

end Bracket.Shows

namespace State.Shows

variable {limit : Nat} {level : Level} {stack : List (Bracket × Level)} {next : State}
  {lexemes : List Lexeme} {lexeme : Lexeme}

/-- A new level is empty. -/
theorem entered {bracket : Bracket} {room : Nat}
    (around : Enclosed limit ((bracket, level) :: stack) lexemes room) :
    Shows limit ⟨.operand, .fresh, (bracket, level) :: stack⟩ lexemes := by
  rw [← Nat.zero_add room] at around
  simpa using Shows.intro around .fresh .operand

theorem takesOperand (shown : Shows limit ⟨.operand, level, stack⟩ lexemes)
    (takes : TakesOperand limit level stack lexeme next) :
    next.Shows limit (lexemes ++ [lexeme]) := by
  rcases shown with ⟨around, waiting, reading⟩
  cases reading
  cases takes with
  | negate symbol free below =>
      rcases around.room below with ⟨room, rfl⟩
      rw [← Nat.add_assoc, Nat.add_right_comm] at around
      simpa using Shows.intro around (waiting.not free symbol) .operand
  | literal literal =>
      simpa using Shows.intro around waiting (.value ⟨0, Nat.zero_le _, .none (.literal literal)⟩)
  | name name => simpa using Shows.intro around waiting (.name name)
  | parenthesis below =>
      rcases around.room below with ⟨room, rfl⟩
      simpa using entered (.bracket around waiting .parenthesis)
  | list => simpa using Shows.intro around waiting (.opened .list)

theorem takesBehind {mode : Mode} {operand : Expr}
    (shown : Shows limit ⟨mode, level, stack⟩ lexemes)
    (read : operand? ⟨mode, level, stack⟩ = some operand)
    (takes : TakesBehind limit level stack operand lexeme next) :
    next.Shows limit (lexemes ++ [lexeme]) := by
  rcases shown with ⟨around, waiting, reading⟩
  have behind := reading.indexing read
  cases takes with
  | index below =>
      rcases around.room below with ⟨room, rfl⟩
      simpa using entered (.bracket around waiting (.index behind))
  | and joint =>
      -- The negations of the level are complete, so their room is free again.
      rw [← Nat.zero_add (level.negations + _)] at around
      simpa using Shows.intro around (waiting.andThen behind joint) .operand
  | or joint =>
      rw [← Nat.zero_add (level.negations + _)] at around
      simpa using Shows.intro around (waiting.orThen behind joint) .operand
  | compare op free =>
      have compared : Shows limit
          ⟨.operand, { level with comparison := some (operand, op) }, stack⟩ _ :=
        .intro around (waiting.compare free behind op) .operand
      simpa using compared
  | close enclosed closed =>
      subst enclosed
      cases around with
      | bracket around outer opened =>
          have made := opened.close (waiting.value behind) closed
          simpa using Shows.intro around outer (.value made)
  | next enclosed goesOn =>
      subst enclosed
      cases around with
      | bracket around outer opened =>
          have further := opened.next (waiting.value behind) goesOn
          simpa using entered (.bracket around outer further)

/-- Each lexeme adds to what the state shows. -/
theorem takes {state : State} (shown : state.Shows limit lexemes)
    (takes : Takes limit state lexeme next) : next.Shows limit (lexemes ++ [lexeme]) := by
  cases takes with
  | operand takes => exact shown.takesOperand takes
  | behind read takes => exact shown.takesBehind read takes
  | call name level stack =>
      rcases shown with ⟨around, waiting, reading⟩
      cases reading
      simpa using Shows.intro around waiting (.opened (.call name))
  | dot named =>
      rcases shown with ⟨around, waiting, reading⟩
      simpa using Shows.intro around waiting (.dot (reading.path_of_segments? named))
  | segment segments name level stack =>
      rcases shown with ⟨around, waiting, reading⟩
      cases reading with
      | dot path =>
          have longer := Path.more path name
          rw [← List.reverse_cons] at longer
          simpa using Shows.intro around waiting (.path longer)
  | closeEmpty closed =>
      rcases shown with ⟨around, waiting, reading⟩
      cases reading with
      | opened row =>
          rcases row.closeEmpty?_eq_some.mp closed with ⟨rfl, rfl⟩
          have made := Within.row row ⟨0, Nat.le_refl 0, .none⟩
          simpa using Shows.intro around waiting (.value (made.mono (Nat.zero_le _)))
  | first below takes =>
      rcases shown with ⟨around, waiting, reading⟩
      cases reading with
      | opened row =>
          rcases around.room below with ⟨room, rfl⟩
          exact (entered (.bracket around waiting (.first row))).takesOperand takes

theorem reads {state final : State} {row : List Lexeme} (shown : state.Shows limit lexemes)
    (reads : Reads limit state row final) : final.Shows limit (lexemes ++ row) := by
  induction reads generalizing lexemes with
  | nil => simpa using shown
  | cons takes _ ih => simpa using ih (shown.takes takes)

end State.Shows

/-- What is read from the start on is shown. -/
theorem State.shows_of_reads {limit : Nat} {state : State} {row : List Lexeme}
    (positive : 0 < limit) (reads : Reads limit .initial row state) : state.Shows limit row := by
  obtain ⟨room, rfl⟩ := Nat.exists_eq_add_one.mpr positive
  have text : Enclosed (room + 1) [] [] (Level.fresh.negations + room) :=
    .text (by simp [Level.fresh])
  have start : State.initial.Shows (room + 1) [] := .intro text .fresh .operand
  exact start.reads reads

/-! ## The parser -/

/-- The machine accepts a row exactly if the grammar derives it and its nesting is within the
limit. -/
theorem ofTokens_eq_ok_iff {limit offset : Nat} {tokens : List Token} {expr : Expr} :
    Expr.ofTokens limit offset tokens = .ok expr ↔
      ∃ nesting ≤ limit, Expression (tokens.map Token.lexeme) expr nesting := by
  rw [ofTokens_eq_ok_iff_reads]
  constructor
  · rintro ⟨positive, ⟨mode, level, stack⟩, reads, noStack, operand, read, rfl⟩
    have shown := State.shows_of_reads positive reads
    generalize tokens.map Token.lexeme = lexemes at shown
    rcases shown with ⟨around, waiting, reading⟩
    cases noStack
    cases around with
    | text fits =>
        rw [← fits]
        exact (waiting.value (reading.indexing read)).expression
  · rintro ⟨nesting, fits, expression⟩
    cases expression with
    | nested disjunction =>
        rename_i inner
        have room : Level.fresh.depth + State.enclosing [] + inner ≤ limit := by
          simp only [Level.depth, Level.fresh, State.enclosing_nil]
          omega
        rcases disjunction.leads [] room with ⟨level, operand, ⟨mode, reads, read⟩, rfl⟩
        exact ⟨by omega, _, reads, rfl, operand, read, rfl⟩

/-- The parser accepts the texts whose lexemes the grammar derives, nested no deeper than the
limit, and finds what they stand for. -/
theorem parse_eq_ok_iff_expression (source : String) (limit : Nat) (expr : Expr) :
    parse source limit = .ok expr ↔
      ∃ tokens, Token.list source = .ok tokens ∧
        ∃ nesting ≤ limit, Expression (tokens.map Token.lexeme) expr nesting := by
  simp only [parse, bind_eq_ok, mapError_eq_ok, ofTokens_eq_ok_iff]

end NodeQuery.Predicate
