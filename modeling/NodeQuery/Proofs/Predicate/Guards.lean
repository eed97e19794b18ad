import NodeQuery.Proofs.Outcome
import NodeQuery.Proofs.Predicate.Precompilation

/-!
# Guards

The value of a path that does not resolve on a node is an error.  `has` asks of a path whether it
resolves and nothing more, and `and` does not look at its right side if the left side is false.  So
an expression behind a guard for each of its paths cannot fail by an unknown attribute: a path that
does not resolve makes the guards false, and the expression is not looked at.
-/

namespace NodeQuery.Predicate

namespace Expr

mutual

/-- The paths of an expression whose values can be asked for: all but those that stand directly
between the parentheses of `has`. -/
def openPaths : Expr → List (List String)
  | .literal _ => []
  | .path segments => [segments]
  | .list items => openPathsAll items
  | .index target position => target.openPaths ++ position.openPaths
  | .call name args => if name = "has" then innerPathsAll args else openPathsAll args
  | .not operand => operand.openPaths
  | .and left right => left.openPaths ++ right.openPaths
  | .or left right => left.openPaths ++ right.openPaths
  | .compare _ left right => left.openPaths ++ right.openPaths

def openPathsAll : List Expr → List (List String)
  | [] => []
  | item :: items => item.openPaths ++ openPathsAll items

/-- The open paths of expressions, but not of those that are paths themselves. -/
def innerPathsAll : List Expr → List (List String)
  | [] => []
  | .path _ :: items => innerPathsAll items
  | item :: items => item.openPaths ++ innerPathsAll items

end

/-- Asks whether a path resolves. -/
def has (path : List String) : Expr := .call "has" [.path path]

/-- `has(p₁) and … and has(pₙ) and expr`, in the grouping in which it is read: `and` takes
everything in front of it as its left side. -/
def guarded : (guards : List (List String)) → (expr : Expr) → Expr
  | [], expr => expr
  | first :: others, expr =>
      .and (others.foldl (fun left path => .and left (has path)) (has first)) expr

end Expr

/-! ## Unknown attributes -/

/-- What the table has of a pattern is what compiling makes of it. -/
def PatternTable.Faithful (table : PatternTable) : Prop :=
  ∀ source, table.get source = compilePattern source

theorem PatternTable.Faithful.agrees {table other : PatternTable} (faithful : table.Faithful)
    (others : other.Faithful) : table.Agrees other :=
  fun source => (faithful source).trans (others source).symm

/-- The table that belongs to an expression. -/
theorem Expr.faithful_patterns (expr : Expr) : expr.patterns.Faithful :=
  (expr.collectPatterns_restricts PatternTable.restricts_nil).get_eq

theorem indexValue_ne_unknown (target position : Value) (path : List String) :
    indexValue target position ≠ .error (.unknownAttribute path) := by
  intro failed
  unfold indexValue at failed
  split at failed
  · dsimp only at failed
    split at failed
    · split at failed <;> cases failed
    · cases failed
  · cases failed
  · cases failed

theorem lengthValue_ne_unknown (value : Value) (path : List String) :
    lengthValue value ≠ .error (.unknownAttribute path) := by
  intro failed
  unfold lengthValue at failed
  split at failed <;> cases failed

theorem compilePattern_ne_unknown (source : String) (path : List String) :
    compilePattern source ≠ .error (.unknownAttribute path) := by
  intro failed
  obtain ⟨_, _, equal⟩ := mapError_eq_error.mp failed
  cases equal

/-- A comparison fails by the kinds of its operands or by its pattern. -/
theorem CompareOp.apply_ne_unknown {table : PatternTable} (faithful : table.Faithful)
    (op : CompareOp) (left right : Value) (path : List String) :
    op.apply table left right ≠ .error (.unknownAttribute path) := by
  intro failed
  cases op with
  | eq | ne => cases failed
  | lt | le | gt | ge =>
      simp only [CompareOp.apply] at failed
      split at failed <;> cases failed
  | startsWith | endsWith | contains =>
      simp only [CompareOp.apply] at failed
      split at failed <;> cases failed
  | matching | notMatching =>
      simp only [CompareOp.apply] at failed
      split at failed
      · rw [faithful] at failed
        rcases bind_eq_error.mp failed with uncompiled | ⟨_, _, impossible⟩
        · exact compilePattern_ne_unknown _ _ uncompiled
        · cases impossible
      · cases failed

namespace Expr

mutual

/-- An expression that fails by an unknown attribute has it among its open paths. -/
theorem mem_openPaths_of_eval {table : PatternTable} (faithful : table.Faithful) {view : View}
    (expr : Expr) {path : List String}
    (failed : expr.eval table view = .error (.unknownAttribute path)) :
    path ∈ expr.openPaths ∧ view path = none := by
  match expr with
  | .literal value => cases failed
  | .path segments =>
      rw [eval] at failed
      split at failed
      case h_1 => cases failed
      case h_2 unresolved =>
        cases failed
        exact ⟨List.mem_singleton_self path, unresolved⟩
  | .list items =>
      rcases bind_eq_error.mp failed with failed | ⟨_, _, impossible⟩
      · exact mem_openPathsAll_of_evalList faithful items failed
      · cases impossible
  | .index target position =>
      rw [openPaths, List.mem_append]
      rcases bind_eq_error.mp failed with failed | ⟨_, _, failed⟩
      · exact (mem_openPaths_of_eval faithful target failed).imp_left .inl
      rcases bind_eq_error.mp failed with failed | ⟨_, _, failed⟩
      · exact (mem_openPaths_of_eval faithful position failed).imp_left .inr
      · exact (indexValue_ne_unknown _ _ _ failed).elim
  | .call name args =>
      by_cases len : name = "len"
      · subst len
        match args with
        | [] => cases failed
        | [arg] =>
            rcases bind_eq_error.mp failed with failed | ⟨_, _, failed⟩
            · simpa [openPaths, openPathsAll] using mem_openPaths_of_eval faithful arg failed
            · exact (lengthValue_ne_unknown _ _ failed).elim
        | _ :: _ :: _ => cases failed
      · by_cases has : name = "has"
        · subst has
          -- No argument of `has` is evaluated.
          match args with
          | [] => cases failed
          | [arg] => cases arg <;> cases failed
          | first :: _ :: _ => cases first <;> cases failed
        · simp [eval, len, has] at failed
  | .not operand =>
      rcases bind_eq_error.mp failed with failed | ⟨_, _, impossible⟩
      · exact mem_openPaths_of_eval faithful operand failed
      · cases impossible
  | .and left right =>
      rw [openPaths, List.mem_append]
      rcases bind_eq_error.mp failed with failed | ⟨_, _, failed⟩
      · exact (mem_openPaths_of_eval faithful left failed).imp_left .inl
      split at failed
      · rcases bind_eq_error.mp failed with failed | ⟨_, _, impossible⟩
        · exact (mem_openPaths_of_eval faithful right failed).imp_left .inr
        · cases impossible
      · cases failed
  | .or left right =>
      rw [openPaths, List.mem_append]
      rcases bind_eq_error.mp failed with failed | ⟨_, _, failed⟩
      · exact (mem_openPaths_of_eval faithful left failed).imp_left .inl
      split at failed
      · cases failed
      · rcases bind_eq_error.mp failed with failed | ⟨_, _, impossible⟩
        · exact (mem_openPaths_of_eval faithful right failed).imp_left .inr
        · cases impossible
  | .compare op left right =>
      rw [openPaths, List.mem_append]
      rcases bind_eq_error.mp failed with failed | ⟨_, _, failed⟩
      · exact (mem_openPaths_of_eval faithful left failed).imp_left .inl
      rcases bind_eq_error.mp failed with failed | ⟨_, _, failed⟩
      · exact (mem_openPaths_of_eval faithful right failed).imp_left .inr
      rcases bind_eq_error.mp failed with failed | ⟨_, _, impossible⟩
      · exact (op.apply_ne_unknown faithful _ _ _ failed).elim
      · cases impossible

theorem mem_openPathsAll_of_evalList {table : PatternTable} (faithful : table.Faithful)
    {view : View} (items : List Expr) {path : List String}
    (failed : evalList table view items = .error (.unknownAttribute path)) :
    path ∈ openPathsAll items ∧ view path = none := by
  match items with
  | [] => cases failed
  | item :: items =>
      rw [openPathsAll, List.mem_append]
      rcases bind_eq_error.mp failed with failed | ⟨_, _, failed⟩
      · exact (mem_openPaths_of_eval faithful item failed).imp_left .inl
      rcases bind_eq_error.mp failed with failed | ⟨_, _, impossible⟩
      · exact (mem_openPathsAll_of_evalList faithful items failed).imp_left .inr
      · cases impossible

end

/-! ## Guarded expressions -/

variable {table : PatternTable} {view : View}

theorem eval_and_of_bool {left right : Expr} {truth : Bool}
    (known : left.eval table view = .ok (.bool truth)) :
    ((Expr.and left right).eval table view).map Value.isTruthy =
      if truth then (right.eval table view).map Value.isTruthy else .ok false := by
  rw [eval, known]
  cases truth with
  | false => rfl
  | true => cases right.eval table view <;> rfl

/-- A row of guards is true if all their paths resolve; it never fails. -/
theorem eval_foldl_has (guards : List (List String)) {left : Expr} {truth : Bool}
    (known : left.eval table view = .ok (.bool truth)) :
    (guards.foldl (fun left path => .and left (has path)) left).eval table view =
      .ok (.bool (truth && guards.all fun path => (view path).isSome)) := by
  induction guards generalizing left truth with
  | nil => simpa using known
  | cons path guards ih =>
      rw [List.foldl_cons, List.all_cons, ← Bool.and_assoc]
      refine ih ?_
      rw [eval, known]
      cases truth <;> rfl

/-- The guards decide whether the expression behind them is looked at. -/
theorem map_eval_guarded (guards : List (List String)) (expr : Expr) :
    ((expr.guarded guards).eval table view).map Value.isTruthy =
      if guards.all fun path => (view path).isSome then (expr.eval table view).map Value.isTruthy
      else .ok false := by
  cases guards with
  | nil => rfl
  | cons first others =>
      rw [List.all_cons]
      exact eval_and_of_bool (eval_foldl_has others rfl)

end Expr

/-- An expression whose open paths all have guards in front of it never fails by an unknown
attribute.  If the paths of all guards resolve, it is as true as without them or fails by the very
same error; otherwise it is false.  Without guards, an unknown attribute is always an open path of
the expression that does not resolve on the node. -/
theorem guards_are_complete {Node Key : Type} (model : NodeModel Node Key)
    (provider : Provider Node) (node : Node) (expr : Expr) {guards : List (List String)}
    (enough : ∀ path ∈ expr.openPaths, path ∈ guards) :
    let view := nodeView model provider node
    let guarded := expr.guarded guards
    (∀ path, guarded.eval guarded.patterns view ≠ .error (.unknownAttribute path)) ∧
      (guarded.eval guarded.patterns view).map Value.isTruthy =
        (if ∀ path ∈ guards, (provider.resolve node path).isSome then
          (expr.eval expr.patterns view).map Value.isTruthy
        else .ok false) ∧
      ∀ path, expr.eval expr.patterns view = .error (.unknownAttribute path) →
        path ∈ expr.openPaths ∧ provider.resolve node path = none := by
  intro view guarded
  have unresolved (path : List String) : view path = none ↔ provider.resolve node path = none :=
    Option.map_eq_none_iff
  have decided : (guarded.eval guarded.patterns view).map Value.isTruthy =
      if guards.all fun path => (view path).isSome then
        (expr.eval expr.patterns view).map Value.isTruthy
      else .ok false := by
    rw [Expr.eval_eq_of_agrees (expr.faithful_patterns.agrees guarded.faithful_patterns)]
    exact Expr.map_eval_guarded guards expr
  refine ⟨?_, ?_, ?_⟩
  · intro path failed
    rw [failed] at decided
    split at decided
    case isFalse => cases decided
    case isTrue resolved =>
      have failed : expr.eval expr.patterns view = .error (.unknownAttribute path) := by
        cases outcome : expr.eval expr.patterns view with
        | ok value => rw [outcome] at decided; cases decided
        | error error => rw [outcome] at decided; cases decided; rfl
      obtain ⟨asked, missing⟩ := expr.mem_openPaths_of_eval expr.faithful_patterns failed
      have present := List.all_eq_true.mp resolved path (enough path asked)
      rw [missing] at present
      cases present
  · rw [decided]
    simp only [List.all_eq_true, view, nodeView, Option.isSome_map]
  · intro path failed
    obtain ⟨asked, missing⟩ := expr.mem_openPaths_of_eval expr.faithful_patterns failed
    exact ⟨asked, (unresolved path).mp missing⟩

/-- Every node has an attribute `next` and no other.  The guard for `next` that is written does not
help, for the second segment of the path is unknown. -/
theorem guards_are_complete_for_comparison :
    let model : NodeModel Nat Nat :=
      { key := id
        attr := fun node name => if name = "next" then some (node + 1) else none }
    let view := nodeView model model.hooks 0
    let expr : Expr := .and (.has ["next"])
      (.compare .lt (.path ["next", "size"]) (.literal (.int 1)))
    expr.eval expr.patterns view = .error (.unknownAttribute ["next", "size"]) ∧
      ["next", "size"] ∈ expr.openPaths ∧
      ((expr.guarded [["next", "size"]]).eval
        (expr.guarded [["next", "size"]]).patterns view).map Value.isTruthy = .ok false := by
  intro model view expr
  have failed : expr.eval expr.patterns view = .error (.unknownAttribute ["next", "size"]) := rfl
  have enough : ∀ path ∈ expr.openPaths, path ∈ [["next", "size"]] := by
    simp [expr, Expr.has, Expr.openPaths, Expr.innerPathsAll]
  obtain ⟨_, decided, unknown⟩ := guards_are_complete model model.hooks 0 expr enough
  obtain ⟨asked, missing⟩ := unknown _ failed
  refine ⟨failed, asked, decided.trans (if_neg ?_)⟩
  simp [missing]

end NodeQuery.Predicate
