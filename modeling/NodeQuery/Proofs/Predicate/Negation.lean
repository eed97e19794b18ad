import NodeQuery.Proofs.Outcome
import NodeQuery.Proofs.Predicate.Guards

/-!
# Negation

The negation of an expression can be written without `not` in front of it: the connectives change
places, and a comparison takes the operator that holds where its own does not.  Only for parts of
strings and lists there is no such operator.  Connectives look at the same operands in the same
order then, and operands that do not fit an operator do not fit its complement either.  So the
moved negation is as true as the expression is false and fails where the expression fails.  If it
fails because the operands of a comparison do not fit, it names the operator that it has instead.
-/

namespace NodeQuery.Predicate

/-- The operator that holds where another one does not. -/
def CompareOp.complement? : CompareOp → Option CompareOp
  | .eq => some .ne
  | .ne => some .eq
  | .lt => some .ge
  | .ge => some .lt
  | .gt => some .le
  | .le => some .gt
  | .matching => some .notMatching
  | .notMatching => some .matching
  | .startsWith => none
  | .endsWith => none
  | .contains => none

namespace Expr

/-- The negation of an expression, moved as far inside as it goes. -/
def negate : Expr → Expr
  | .not operand => operand
  | .and left right => .or left.negate right.negate
  | .or left right => .and left.negate right.negate
  | .compare op left right =>
      match op.complement? with
      | some other => .compare other left right
      | none => .not (.compare op left right)
  | expr => .not expr

/-- Evaluation comes, through connectives only, to a comparison by an operator that has a
complement, and fails there because the operands do not fit the operator. -/
inductive Misfit (table : PatternTable) (view : View) :
    Expr → (op other : CompareOp) → (left right : Value) → Prop where
  | compare {op other : CompareOp} {left right : Expr} {leftValue rightValue : Value}
      (complement : op.complement? = some other)
      (first : left.eval table view = .ok leftValue)
      (second : right.eval table view = .ok rightValue)
      (failed : op.apply table leftValue rightValue =
        .error (.typeMismatch (.compare op) leftValue.kind rightValue.kind)) :
      Misfit table view (.compare op left right) op other leftValue rightValue
  | andLeft {left right : Expr} {op other : CompareOp} {leftValue rightValue : Value}
      (inner : Misfit table view left op other leftValue rightValue) :
      Misfit table view (.and left right) op other leftValue rightValue
  | andRight {left right : Expr} {op other : CompareOp} {leftValue rightValue : Value}
      {value : Value} (first : left.eval table view = .ok value) (holds : value.isTruthy = true)
      (inner : Misfit table view right op other leftValue rightValue) :
      Misfit table view (.and left right) op other leftValue rightValue
  | orLeft {left right : Expr} {op other : CompareOp} {leftValue rightValue : Value}
      (inner : Misfit table view left op other leftValue rightValue) :
      Misfit table view (.or left right) op other leftValue rightValue
  | orRight {left right : Expr} {op other : CompareOp} {leftValue rightValue : Value}
      {value : Value} (first : left.eval table view = .ok value) (fails : value.isTruthy = false)
      (inner : Misfit table view right op other leftValue rightValue) :
      Misfit table view (.or left right) op other leftValue rightValue

end Expr

/-! ## Comparisons -/

namespace CompareOp

variable {table : PatternTable} {op other : CompareOp}

theorem apply_of_isOrdering (ordering : op.isOrdering = true) (left right : Value) :
    op.apply table left right =
      match left.compare? right with
      | some order => .ok (op.accepts order)
      | none => .error (.typeMismatch (.compare op) left.kind right.kind) := by
  cases op with
  | lt | le | gt | ge => rfl
  | _ => cases ordering

/-- One operator expects a match and the other one expects none. -/
theorem apply_of_isPattern (pattern : op.isPattern = true) (left right : Value) :
    op.apply table left right =
      match left, right with
      | .string text, .string source => do
          let pattern ← table.get source
          .ok (pattern.isMatch text == decide (op = .matching))
      | _, _ => .error (.typeMismatch (.compare op) left.kind right.kind) := by
  cases op with
  | matching | notMatching => rfl
  | _ => cases pattern

theorem accepts_complement (complement : op.complement? = some other)
    (ordering : op.isOrdering = true) (order : Ordering) :
    other.accepts order = !op.accepts order := by
  cases op with
  | lt | le | gt | ge =>
      cases complement
      cases order <;> rfl
  | _ => cases ordering

/-- Equality has an answer for all operands; all other complements are of the same sort. -/
theorem sort_of_complement (complement : op.complement? = some other) :
    (op.isOrdering = true ∧ other.isOrdering = true) ∨
      (op.isPattern = true ∧ other.isPattern = true) ∨
      ∀ (table : PatternTable) (left right : Value), ∃ holds,
        op.apply table left right = .ok holds ∧ other.apply table left right = .ok !holds := by
  cases op with
  | eq =>
      cases complement
      exact .inr (.inr fun _ left right => ⟨left.looseEq right, rfl, rfl⟩)
  | ne =>
      cases complement
      refine .inr (.inr fun _ left right => ⟨!left.looseEq right, rfl, ?_⟩)
      rw [Bool.not_not]
      rfl
  | lt | le | gt | ge =>
      cases complement
      exact .inl ⟨rfl, rfl⟩
  | matching | notMatching =>
      cases complement
      exact .inr (.inl ⟨rfl, rfl⟩)
  | startsWith | endsWith | contains => cases complement

theorem beq_matching_complement (complement : op.complement? = some other)
    (pattern : op.isPattern = true) (found : Bool) :
    (found == decide (other = .matching)) = !(found == decide (op = .matching)) := by
  cases op with
  | matching | notMatching =>
      cases complement
      cases found <;> rfl
  | _ => cases pattern

/-- Where the operands fit, the complement holds just where the operator does not. -/
theorem apply_complement (complement : op.complement? = some other) {left right : Value}
    (fits : op.apply table left right ≠
      .error (.typeMismatch (.compare op) left.kind right.kind)) :
    other.apply table left right = (op.apply table left right).map Bool.not := by
  rcases sort_of_complement complement with ⟨first, second⟩ | ⟨first, second⟩ | both
  · rw [apply_of_isOrdering first] at fits ⊢
    rw [apply_of_isOrdering second]
    cases order : left.compare? right with
    | none =>
        rw [order] at fits
        exact absurd rfl fits
    | some _ => exact congrArg Except.ok (accepts_complement complement first _)
  · rw [apply_of_isPattern first] at fits ⊢
    rw [apply_of_isPattern second]
    split
    case h_1 text source =>
      cases table.get source with
      | error error => rfl
      | ok pattern =>
          exact congrArg Except.ok (beq_matching_complement complement first (pattern.isMatch text))
    case h_2 strangers =>
      split at fits
      case h_1 => exact (strangers _ _ rfl rfl).elim
      case h_2 => exact absurd rfl fits
  · obtain ⟨holds, own, others⟩ := both table left right
    rw [own, others]
    rfl

/-- Operands that do not fit an operator do not fit its complement. -/
theorem apply_complement_of_misfit (faithful : table.Faithful)
    (complement : op.complement? = some other) {left right : Value}
    (failed : op.apply table left right =
      .error (.typeMismatch (.compare op) left.kind right.kind)) :
    (op.isOrdering = true ∨ op.isPattern = true) ∧
      other.apply table left right =
        .error (.typeMismatch (.compare other) left.kind right.kind) := by
  rcases sort_of_complement complement with ⟨first, second⟩ | ⟨first, second⟩ | both
  · refine ⟨.inl first, ?_⟩
    rw [apply_of_isOrdering first] at failed
    rw [apply_of_isOrdering second]
    cases order : left.compare? right with
    | none => rfl
    | some order =>
        rw [order] at failed
        cases failed
  · refine ⟨.inr first, ?_⟩
    rw [apply_of_isPattern first] at failed
    rw [apply_of_isPattern second]
    split
    case h_1 text source =>
      -- With two strings, only the pattern can be at fault.
      simp only [faithful source] at failed
      rcases bind_eq_error.mp failed with uncompiled | ⟨_, _, impossible⟩
      · obtain ⟨_, _, equal⟩ := mapError_eq_error.mp uncompiled
        cases equal
      · cases impossible
    case h_2 => rfl
  · obtain ⟨_, own, _⟩ := both table left right
    rw [own] at failed
    cases failed

end CompareOp

/-! ## Expressions -/

namespace Expr

variable {table : PatternTable} {view : View} {expr : Expr} {op other : CompareOp}
variable {leftValue rightValue : Value}

/-- Whether an expression is true, or why it has no value. -/
def truth (table : PatternTable) (view : View) (expr : Expr) : Except PredicateError Bool :=
  (expr.eval table view).map Value.isTruthy

theorem truth_not (operand : Expr) :
    (Expr.not operand).truth table view = (operand.truth table view).map Bool.not := by
  rw [truth, truth, eval]
  cases operand.eval table view <;> rfl

theorem truth_and (left right : Expr) :
    (Expr.and left right).truth table view =
      left.truth table view >>= fun holds =>
        if holds then right.truth table view else .ok false := by
  rw [truth, truth, truth, eval]
  cases first : left.eval table view with
  | error error => rfl
  | ok value =>
      simp only [bind, Except.bind, Except.map]
      cases value.isTruthy with
      | false => rfl
      | true => cases right.eval table view <;> rfl

theorem truth_or (left right : Expr) :
    (Expr.or left right).truth table view =
      left.truth table view >>= fun holds =>
        if holds then .ok true else right.truth table view := by
  rw [truth, truth, truth, eval]
  cases first : left.eval table view with
  | error error => rfl
  | ok value =>
      simp only [bind, Except.bind, Except.map]
      cases value.isTruthy with
      | true => rfl
      | false => cases right.eval table view <;> rfl

theorem Misfit.truth_eq (misfit : expr.Misfit table view op other leftValue rightValue) :
    expr.truth table view =
      .error (.typeMismatch (.compare op) leftValue.kind rightValue.kind) := by
  induction misfit with
  | compare _ first second failed =>
      rw [truth, eval, first, second]
      simp only [bind, Except.bind, failed]
      rfl
  | andLeft _ ih =>
      rw [truth_and, ih]
      rfl
  | orLeft _ ih =>
      rw [truth_or, ih]
      rfl
  | andRight first holds _ ih =>
      rw [truth_and, ih, truth, first]
      simp [Except.map, bind, Except.bind, holds]
  | orRight first fails _ ih =>
      rw [truth_or, ih, truth, first]
      simp [Except.map, bind, Except.bind, fails]

theorem not_misfit_of_eval {value : Value} (evaluated : expr.eval table view = .ok value)
    (op other : CompareOp) (left right : Value) :
    ¬ expr.Misfit table view op other left right := by
  intro misfit
  have failed := misfit.truth_eq
  rw [truth, evaluated] at failed
  cases failed

/-- If no comparison fails by its operands, the moved negation is true where the expression is
false and fails as it does.  Of a right operand this is known only where it is looked at. -/
theorem truth_negate (expr : Expr)
    (fits : ∀ op other left right, ¬ expr.Misfit table view op other left right) :
    expr.negate.truth table view = (expr.truth table view).map Bool.not := by
  match expr with
  | .not operand =>
      rw [negate, truth_not]
      cases operand.truth table view with
      | error error => rfl
      | ok holds => cases holds <;> rfl
  | .and left right =>
      have first := truth_negate left fun _ _ _ _ inner => fits _ _ _ _ (.andLeft inner)
      rw [negate, truth_or, truth_and, first]
      cases outcome : left.truth table view with
      | error error => rfl
      | ok holds =>
          cases holds with
          | false => rfl
          | true =>
              obtain ⟨value, evaluated, holds⟩ := map_eq_ok.mp outcome
              exact truth_negate right fun _ _ _ _ inner =>
                fits _ _ _ _ (.andRight evaluated holds.symm inner)
  | .or left right =>
      have first := truth_negate left fun _ _ _ _ inner => fits _ _ _ _ (.orLeft inner)
      rw [negate, truth_and, truth_or, first]
      cases outcome : left.truth table view with
      | error error => rfl
      | ok holds =>
          cases holds with
          | true => rfl
          | false =>
              obtain ⟨value, evaluated, fails⟩ := map_eq_ok.mp outcome
              exact truth_negate right fun _ _ _ _ inner =>
                fits _ _ _ _ (.orRight evaluated fails.symm inner)
  | .compare op left right =>
      rw [negate]
      split
      case h_2 => exact truth_not _
      case h_1 other complement =>
        simp only [truth, eval]
        cases first : left.eval table view with
        | error error => rfl
        | ok leftValue =>
            cases second : right.eval table view with
            | error error => rfl
            | ok rightValue =>
                have opposite := CompareOp.apply_complement complement fun failed =>
                  fits _ _ _ _ (.compare complement first second failed)
                simp only [bind, Except.bind, opposite]
                cases op.apply table leftValue rightValue <;> rfl
  | .literal _ | .path _ | .list _ | .index _ _ | .call _ _ => exact truth_not _

/-- A comparison whose operands do not fit fails after the move as well, by its new operator. -/
theorem Misfit.truth_negate (faithful : table.Faithful)
    (misfit : expr.Misfit table view op other leftValue rightValue) :
    (op.isOrdering = true ∨ op.isPattern = true) ∧
      expr.negate.truth table view =
        .error (.typeMismatch (.compare other) leftValue.kind rightValue.kind) := by
  induction misfit with
  | compare complement first second failed =>
      obtain ⟨sort, failed⟩ := CompareOp.apply_complement_of_misfit faithful complement failed
      refine ⟨sort, ?_⟩
      rw [negate, complement, truth, eval, first, second]
      simp only [bind, Except.bind, failed]
      rfl
  | andLeft _ ih =>
      refine ⟨ih.1, ?_⟩
      rw [negate, truth_or, ih.2]
      rfl
  | orLeft _ ih =>
      refine ⟨ih.1, ?_⟩
      rw [negate, truth_and, ih.2]
      rfl
  | @andRight left _ _ _ _ _ _ first holds _ ih =>
      refine ⟨ih.1, ?_⟩
      rw [negate, truth_or, left.truth_negate (not_misfit_of_eval first), truth, first, ih.2]
      simp [Except.map, bind, Except.bind, holds]
  | @orRight left _ _ _ _ _ _ first fails _ ih =>
      refine ⟨ih.1, ?_⟩
      rw [negate, truth_and, left.truth_negate (not_misfit_of_eval first), truth, first, ih.2]
      simp [Except.map, bind, Except.bind, fails]

theorem truth_eq_of_faithful {table' : PatternTable} (faithful : table.Faithful)
    (faithful' : table'.Faithful) (expr : Expr) :
    expr.truth table view = expr.truth table' view :=
  congrArg (Except.map Value.isTruthy) (expr.eval_eq_of_agrees (faithful.agrees faithful') view)

end Expr

/-- The negation of an expression can be moved inside.  If evaluating the expression ends at a
comparison whose operands do not fit, it is a comparison of order or by a pattern; the outer
negation fails by its operator, and the moved one by the complement.  In all other cases both are
equally true or fail by the very same error. -/
theorem negation_moves_inside {Node Key : Type} (model : NodeModel Node Key)
    (provider : Provider Node) (node : Node) (expr : Expr) :
    let view := nodeView model provider node
    let outer := (expr.not.eval expr.not.patterns view).map Value.isTruthy
    let moved := (expr.negate.eval expr.negate.patterns view).map Value.isTruthy
    (∀ op other left right, expr.Misfit expr.patterns view op other left right →
      (op.isOrdering = true ∨ op.isPattern = true) ∧
        outer = .error (.typeMismatch (.compare op) left.kind right.kind) ∧
        moved = .error (.typeMismatch (.compare other) left.kind right.kind)) ∧
      ((∀ op other left right, ¬ expr.Misfit expr.patterns view op other left right) →
        moved = outer) := by
  intro view outer moved
  have outside : outer = (expr.truth expr.patterns view).map Bool.not := by
    rw [← Expr.truth_not]
    exact Expr.truth_eq_of_faithful (Expr.faithful_patterns _) (Expr.faithful_patterns _) _
  have inside : moved = expr.negate.truth expr.patterns view :=
    Expr.truth_eq_of_faithful (Expr.faithful_patterns _) (Expr.faithful_patterns _) _
  constructor
  · intro op other left right misfit
    obtain ⟨sort, failed⟩ := misfit.truth_negate expr.faithful_patterns
    refine ⟨sort, ?_, inside.trans failed⟩
    rw [outside, misfit.truth_eq]
    rfl
  · intro fits
    rw [outside, inside]
    exact expr.truth_negate fits

/-- Text has no order with numbers, which both negations find out behind the guard.  If the
operands fit, both are true. -/
theorem negation_moves_inside_behind_guard :
    let model : NodeModel String String := {
      key := id
      attr := fun node name => if name = "x" then some node else none
      value := fun node => .string node }
    let view := nodeView model model.hooks "a"
    let text : Expr := .path ["x"]
    let ordered : Expr := .and (.has ["x"]) (.compare .lt text (.literal (.int 5)))
    let equal : Expr := .and (.has ["x"]) (.compare .eq text (.literal (.int 5)))
    ordered.negate = .or (.not (.has ["x"])) (.compare .ge text (.literal (.int 5))) ∧
      (ordered.not.eval ordered.not.patterns view).map Value.isTruthy =
        .error (.typeMismatch (.compare .lt) "string" "int") ∧
      (ordered.negate.eval ordered.negate.patterns view).map Value.isTruthy =
        .error (.typeMismatch (.compare .ge) "string" "int") ∧
      (equal.not.eval equal.not.patterns view).map Value.isTruthy = .ok true ∧
      (equal.negate.eval equal.negate.patterns view).map Value.isTruthy = .ok true := by
  intro model view text ordered equal
  have guard : (Expr.has ["x"]).eval ordered.patterns view = .ok (.bool true) := rfl
  have misfit : ordered.Misfit ordered.patterns view .lt .ge (.string "a") (.int 5) :=
    .andRight guard rfl (.compare rfl rfl rfl rfl)
  have fits : ∀ op other left right, ¬ equal.Misfit equal.patterns view op other left right := by
    intro op other left right misfit
    simp only [equal, Expr.has] at misfit
    cases misfit with
    | andLeft inner => cases inner
    | andRight _ _ inner =>
        cases inner with
        | compare _ _ _ failed => cases failed
  obtain ⟨_, outer, moved⟩ :=
    (negation_moves_inside model model.hooks "a" ordered).1 _ _ _ _ misfit
  have same := (negation_moves_inside model model.hooks "a" equal).2 fits
  have holds : (equal.not.eval equal.not.patterns view).map Value.isTruthy = .ok true := rfl
  exact ⟨rfl, outer, moved, holds, same.trans holds⟩

/-- A number fits no pattern operator.  The negations fail by different operators then, though
neither is one of order. -/
theorem pattern_misfits_name_different_operators :
    let model : NodeModel Nat Nat := {
      key := id
      attr := fun _ name => if name = "n" then some 5 else none
      value := fun node => .int (.ofNat node) }
    let view := nodeView model model.hooks 0
    let expr : Expr := .compare .matching (.path ["n"]) (.literal (.string "a"))
    let outer := (expr.not.eval expr.not.patterns view).map Value.isTruthy
    let moved := (expr.negate.eval expr.negate.patterns view).map Value.isTruthy
    outer = .error (.typeMismatch (.compare .matching) "int" "string") ∧
      moved = .error (.typeMismatch (.compare .notMatching) "int" "string") ∧
      ¬ (moved = outer ∨ ∃ op other left right,
        op.isOrdering = true ∧ op.complement? = some other ∧
        outer = .error (.typeMismatch (.compare op) left right) ∧
        moved = .error (.typeMismatch (.compare other) left right)) := by
  intro model view expr outer moved
  have first : outer = .error (.typeMismatch (.compare .matching) "int" "string") := rfl
  have second : moved = .error (.typeMismatch (.compare .notMatching) "int" "string") := rfl
  refine ⟨first, second, ?_⟩
  rw [first, second]
  rintro (same | ⟨op, other, left, right, ordering, _, named, _⟩)
  · cases same
  · cases named
    cases ordering

end NodeQuery.Predicate
