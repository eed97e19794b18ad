import NodeQuery.Proofs.Predicate.Transition

/-!
# Derivations of predicates drive the machine

Each nonterminal has a lemma that says where its lexemes lead if they are read where an operand has
to stand.  The limit is never met on the way as long as the nesting of the derivation fits under it.
-/

namespace NodeQuery.Predicate

open Grammar

namespace State

variable {limit : Nat}

/-- Reading the row leads behind an operand. -/
def Leads (limit : Nat) (state : State) (lexemes : List Lexeme) (level : Level)
    (stack : List (Bracket × Level)) (operand : Expr) : Prop :=
  ∃ mode, Reads limit state lexemes ⟨mode, level, stack⟩ ∧
    operand? ⟨mode, level, stack⟩ = some operand

namespace Leads

variable {state next : State} {left right : List Lexeme} {lexeme : Lexeme} {operand : Expr}
  {level outer : Level} {stack final : List (Bracket × Level)} {bracket : Bracket}

/-- What can be taken behind an operand can be taken behind the row. -/
theorem takes (leads : Leads limit state left level stack operand)
    (takes : TakesBehind limit level stack operand lexeme next) :
    Reads limit state (left ++ [lexeme]) next := by
  rcases leads with ⟨mode, reads, read⟩
  exact reads.append (.cons (.behind read takes) (.nil next))

theorem after (front : Reads limit state left next)
    (leads : Leads limit next right level stack operand) :
    Leads limit state (left ++ right) level stack operand := by
  rcases leads with ⟨mode, back, read⟩
  exact ⟨mode, front.append back, read⟩

/-- A list that has just been opened is entered by its first element. -/
theorem opened (room : outer.depth + enclosing stack < limit)
    (leads : Leads limit ⟨.operand, .fresh, (bracket, outer) :: stack⟩ left level final operand) :
    Leads limit ⟨.opened bracket, outer, stack⟩ left level final operand := by
  rcases leads with ⟨mode, reads, read⟩
  cases reads with
  | nil => cases read
  | cons takes reads =>
      cases takes with
      | operand takes => exact ⟨mode, .cons (.first room takes) reads, read⟩
      | behind none => cases none
      | dot none => cases none

end Leads

end State

namespace Grammar

open State

variable {limit : Nat}

theorem Literal.leads {lexeme : Lexeme} {value : Value} (literal : Literal lexeme value)
    (level : Level) (stack : List (Bracket × Level)) :
    Leads limit ⟨.operand, level, stack⟩ [lexeme] level stack (.literal value) :=
  ⟨_, .cons (.operand (.literal literal)) (.nil _), rfl⟩

theorem Path.reads {lexemes : List Lexeme} {segments : List String}
    (path : Path lexemes segments) (level : Level) (stack : List (Bracket × Level)) :
    ∃ mode : Mode, Reads limit ⟨.operand, level, stack⟩ lexemes ⟨mode, level, stack⟩ ∧
      mode.segments? = some segments.reverse := by
  induction path with
  | one name => exact ⟨.name name, .cons (.operand (.name name)) (.nil _), rfl⟩
  | @more lexemes segments path name ih =>
      rcases ih with ⟨mode, reads, named⟩
      have back : Reads limit ⟨mode, level, stack⟩ [.dot, .name name]
          ⟨.path (name :: segments.reverse), level, stack⟩ :=
        .cons (.dot named) (.cons (.segment _ name level stack) (.nil _))
      exact ⟨_, reads.append back, by simp [Mode.segments?]⟩

theorem operand?_of_segments? {mode : Mode} {segments : List String} {level : Level}
    {stack : List (Bracket × Level)} (named : mode.segments? = some segments) :
    State.operand? ⟨mode, level, stack⟩ = some (.path segments.reverse) := by
  cases mode <;> cases named <;> rfl

/-- The brackets around rows of expressions: what opens them, how they go on, what closes them, and
what they make of the row. -/
inductive Row : List Lexeme → (List Expr → Bracket) → Lexeme → (List Expr → Expr) → Prop where
  | list : Row [.openBracket] .list .closeBracket .list
  | call (name : String) : Row [.name name, .openParen] (.call name) .closeParen (.call name)

namespace Row

variable {opening : List Lexeme} {make : List Expr → Bracket} {close lexeme : Lexeme}
  {whole : List Expr → Expr} {items : List Expr} {last : Expr}

theorem opens (row : Row opening make close whole) (level : Level)
    (stack : List (Bracket × Level)) :
    Reads limit ⟨.operand, level, stack⟩ opening ⟨.opened (make []), level, stack⟩ := by
  cases row with
  | list => exact .cons (.operand .list) (.nil _)
  | call name => exact .cons (.operand (.name name)) (.cons (.call name level stack) (.nil _))

theorem closeEmpty?_eq_some (row : Row opening make close whole) {operand : Expr} :
    (make []).closeEmpty? lexeme = some operand ↔ lexeme = close ∧ operand = whole [] := by
  cases row <;> cases lexeme <;> simp [Bracket.closeEmpty?, eq_comm]

theorem close?_eq_some (row : Row opening make close whole) {operand : Expr} :
    (make items).close? lexeme last = some operand ↔
      lexeme = close ∧ operand = whole (items.reverse ++ [last]) := by
  cases row <;> cases lexeme <;> simp [Bracket.close?, eq_comm]

theorem next?_eq (row : Row opening make close whole) :
    (make items).next? last = some (make (last :: items)) := by
  cases row <;> rfl

theorem operand (row : Row opening make close whole) {lexemes : List Lexeme} {exprs : List Expr}
    {nesting : Nat} (inside : Items lexemes exprs nesting) :
    Operand (opening ++ (lexemes ++ [close])) (whole exprs) nesting := by
  cases row with
  | list => exact .list inside
  | call name => exact .call name inside

end Row

theorem negate_not (count : Nat) (operand : Expr) :
    Level.negate count (.not operand) = .not (Level.negate count operand) := by
  induction count with
  | zero => rfl
  | succ count ih => simp [Level.negate, ih]

mutual

theorem Expression.leads {lexemes : List Lexeme} {expr : Expr} {nesting : Nat}
    (expression : Expression lexemes expr nesting) (bracket : Bracket)
    (outer : Level) (stack : List (Bracket × Level))
    (fits : outer.depth + enclosing stack + nesting ≤ limit) :
    outer.depth + enclosing stack < limit ∧ ∃ level operand,
      Leads limit ⟨.operand, .fresh, (bracket, outer) :: stack⟩ lexemes level
        ((bracket, outer) :: stack) operand ∧ level.value operand = expr := by
  -- All nine lemmas recurse on their derivations; the brackets lead back here.
  match expression with
  | .nested disjunction =>
      refine ⟨by omega, disjunction.leads _ ?_⟩
      simp only [enclosing_cons, Level.depth, Level.fresh] at fits ⊢
      omega

theorem Disjunction.leads {lexemes : List Lexeme} {expr : Expr} {nesting : Nat}
    (disjunction : Disjunction lexemes expr nesting)
    (stack : List (Bracket × Level))
    (fits : Level.fresh.depth + enclosing stack + nesting ≤ limit) :
    ∃ level operand, Leads limit ⟨.operand, .fresh, stack⟩ lexemes level stack operand ∧
      level.value operand = expr := by
  match disjunction with
  | .one conjunction =>
      rcases conjunction.leads .none stack fits with ⟨level, operand, leads, noDisjunct, made⟩
      exact ⟨level, operand, leads, by simp [Level.value, noDisjunct, made]⟩
  | @Disjunction.more _ _ _ disjunct _ _ _ before joint behind =>
      rcases before.leads stack (by omega) with ⟨level, operand, front, made⟩
      have joined := front.takes (.or joint)
      rcases behind.leads (some disjunct) stack (by omega) with
        ⟨final, last, back, waiting, madeLast⟩
      refine ⟨final, last, ?_, by simp [Level.value, waiting, madeLast]⟩
      -- Behind `or`, nothing but the disjunct waits for the right operand.
      have onward : Level.orThen level operand = ⟨some disjunct, none, 0, none⟩ := by
        simp [Level.orThen, made]
      rw [onward] at joined
      simpa using Leads.after joined back

theorem Conjunction.leads {lexemes : List Lexeme} {expr : Expr} {nesting : Nat}
    (conjunction : Conjunction lexemes expr nesting)
    (disjunct : Option Expr) (stack : List (Bracket × Level))
    (fits : Level.fresh.depth + enclosing stack + nesting ≤ limit) :
    ∃ level operand, Leads limit ⟨.operand, ⟨disjunct, none, 0, none⟩, stack⟩ lexemes level stack
      operand ∧ level.disjunct = disjunct ∧ level.conjoined operand = expr := by
  match conjunction with
  | .one negation =>
      rcases negation.leads disjunct .none 0 stack fits with
        ⟨level, operand, leads, sameDisjunct, noConjunct, made⟩
      refine ⟨level, operand, leads, sameDisjunct, ?_⟩
      simp [Level.conjoined, noConjunct, made, Level.negate]
  | @Conjunction.more _ _ _ conjunct _ _ _ before joint behind =>
      rcases before.leads disjunct stack (by omega) with
        ⟨level, operand, front, sameDisjunct, made⟩
      have joined := front.takes (.and joint)
      have single : Level.fresh.depth = 1 := rfl
      rcases behind.leads disjunct (some conjunct) 0 stack (by omega) with
        ⟨final, last, back, sameDisjunct', waiting, madeLast⟩
      refine ⟨final, last, ?_, sameDisjunct', ?_⟩
      · have onward : Level.andThen level operand = ⟨disjunct, some conjunct, 0, none⟩ := by
          simp [Level.andThen, made, sameDisjunct]
        rw [onward] at joined
        simpa using Leads.after joined back
      · simp [Level.conjoined, waiting, madeLast, Level.negate]

theorem Negation.leads {lexemes : List Lexeme} {expr : Expr} {nesting : Nat}
    (negation : Negation lexemes expr nesting)
    (disjunct conjunct : Option Expr) (negations : Nat) (stack : List (Bracket × Level))
    (fits : negations + 1 + enclosing stack + nesting ≤ limit) :
    ∃ level operand, Leads limit ⟨.operand, ⟨disjunct, conjunct, negations, none⟩, stack⟩ lexemes
      level stack operand ∧ level.disjunct = disjunct ∧ level.conjunct = conjunct ∧
        level.negated operand = Level.negate negations expr := by
  match negation with
  | .none comparison =>
      rcases comparison.leads ⟨disjunct, conjunct, negations, none⟩ rfl stack fits with
        ⟨waiting, operand, leads, made⟩
      exact ⟨_, operand, leads, rfl, rfl, by simp [Level.negated, made]⟩
  | @Negation.not _ sign _ _ symbol negation =>
      rcases negation.leads disjunct conjunct (negations + 1) stack
        (by omega) with
        ⟨level, last, back, sameDisjunct, sameConjunct, made⟩
      have front : Reads limit ⟨.operand, ⟨disjunct, conjunct, negations, none⟩, stack⟩ [sign]
          ⟨.operand, ⟨disjunct, conjunct, negations + 1, none⟩, stack⟩ :=
        .cons (.operand (.negate symbol rfl (by simp only [Level.depth]; omega))) (.nil _)
      refine ⟨level, last, Leads.after front back, sameDisjunct, sameConjunct, ?_⟩
      rw [made, negate_not, Level.negate]

theorem Comparison.leads {lexemes : List Lexeme} {expr : Expr} {nesting : Nat}
    (comparison : Comparison lexemes expr nesting) (level : Level)
    (free : level.comparison = none) (stack : List (Bracket × Level))
    (fits : level.depth + enclosing stack + nesting ≤ limit) :
    ∃ waiting operand, Leads limit ⟨.operand, level, stack⟩ lexemes
      { level with comparison := waiting } stack operand ∧
        Level.compared { level with comparison := waiting } operand = expr := by
  match comparison with
  | .none indexing =>
      have leads := indexing.leads level stack fits
      rcases level with ⟨disjunct, conjunct, negations, comparison⟩
      subst free
      exact ⟨.none, expr, leads, rfl⟩
  | @Comparison.compare _ _ leftExpr rightExpr _ _ before op behind =>
      have front := before.leads level stack (by omega)
      have joined := front.takes (.compare op free)
      have back := behind.leads { level with comparison := some (leftExpr, op) } stack
        (by simp only [Level.depth] at fits ⊢; omega)
      exact ⟨some (leftExpr, op), rightExpr, by simpa using Leads.after joined back, rfl⟩

theorem Indexing.leads {lexemes : List Lexeme} {expr : Expr} {nesting : Nat}
    (indexing : Indexing lexemes expr nesting) (level : Level)
    (stack : List (Bracket × Level))
    (fits : level.depth + enclosing stack + nesting ≤ limit) :
    Leads limit ⟨.operand, level, stack⟩ lexemes level stack expr := by
  match indexing with
  | .none operand => exact operand.leads level stack fits
  | @Indexing.index _ _ target position _ _ before inside =>
      have front := before.leads level stack (by omega)
      rcases inside.leads (.index target) level stack (by omega) with
        ⟨room, innerLevel, last, middle, made⟩
      have entered := front.takes (.index room)
      have closes : TakesBehind limit innerLevel ((.index target, level) :: stack) last
          .closeBracket ⟨.value (.index target position), level, stack⟩ :=
        .close rfl (by simp [Bracket.close?, made])
      exact ⟨_, by simpa using (Leads.after entered middle).takes closes, rfl⟩

theorem Operand.leads {lexemes : List Lexeme} {expr : Expr} {nesting : Nat}
    (operand : Operand lexemes expr nesting) (level : Level)
    (stack : List (Bracket × Level))
    (fits : level.depth + enclosing stack + nesting ≤ limit) :
    Leads limit ⟨.operand, level, stack⟩ lexemes level stack expr := by
  match operand with
  | .literal literal => exact literal.leads level stack
  | .path path =>
      rcases path.reads level stack with ⟨mode, reads, named⟩
      exact ⟨mode, reads, by simpa using operand?_of_segments? named⟩
  | .call name items =>
      have row := Row.call name
      exact ⟨_, (row.opens level stack).append (items.reads row level stack fits), rfl⟩
  | .parenthesis inside =>
      rcases inside.leads .parenthesis level stack fits with ⟨room, innerLevel, last, leads, made⟩
      have closes : TakesBehind limit innerLevel ((.parenthesis, level) :: stack) last .closeParen
          ⟨.value expr, level, stack⟩ :=
        .close rfl (by simp [Bracket.close?, made])
      exact ⟨_, .cons (.operand (.parenthesis room)) (leads.takes closes), rfl⟩
  | .list items =>
      have row := Row.list
      exact ⟨_, (row.opens level stack).append (items.reads row level stack fits), rfl⟩

theorem Items.reads {lexemes : List Lexeme} {exprs : List Expr} {nesting : Nat}
    (items : Items lexemes exprs nesting) {opening : List Lexeme}
    {make : List Expr → Bracket} {close : Lexeme} {whole : List Expr → Expr}
    (row : Row opening make close whole) (level : Level)
    (stack : List (Bracket × Level))
    (fits : level.depth + enclosing stack + nesting ≤ limit) :
    Reads limit ⟨.opened (make []), level, stack⟩ (lexemes ++ [close])
      ⟨.value (whole exprs), level, stack⟩ := by
  match items with
  | .none => exact .cons (.closeEmpty (row.closeEmpty?_eq_some.mpr ⟨rfl, rfl⟩)) (.nil _)
  | .some elements =>
      rcases elements.leads row level stack fits with ⟨room, front, inner, last, leads, rfl⟩
      exact (leads.opened room).takes (.close rfl (row.close?_eq_some.mpr ⟨rfl, by simp⟩))

theorem Elements.leads {lexemes : List Lexeme} {exprs : List Expr} {nesting : Nat}
    (elements : Elements lexemes exprs nesting) {opening : List Lexeme}
    {make : List Expr → Bracket} {close : Lexeme} {whole : List Expr → Expr}
    (row : Row opening make close whole) (outer : Level)
    (stack : List (Bracket × Level))
    (fits : outer.depth + enclosing stack + nesting ≤ limit) :
    outer.depth + enclosing stack < limit ∧ ∃ front level last,
      Leads limit ⟨.operand, .fresh, (make [], outer) :: stack⟩ lexemes level
        ((make front.reverse, outer) :: stack) last ∧ exprs = front ++ [level.value last] := by
  match elements with
  | .one expression =>
      rcases expression.leads (make []) outer stack fits with ⟨room, level, last, leads, made⟩
      exact ⟨room, [], level, last, leads, by simp [made]⟩
  | @Elements.more _ _ exprs _ _ _ before behind =>
      rcases before.leads row outer stack (by omega) with
        ⟨room, front, level, last, leads, made⟩
      have joined := leads.takes (.next rfl row.next?_eq)
      rcases behind.leads (make (level.value last :: front.reverse)) outer stack (by omega) with
        ⟨-, final, lastBehind, back, madeBehind⟩
      refine ⟨room, exprs, final, lastBehind, ?_, by rw [madeBehind]⟩
      simpa [made] using Leads.after joined back

end

end Grammar

end NodeQuery.Predicate
