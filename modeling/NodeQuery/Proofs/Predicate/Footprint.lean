import NodeQuery.Node.Document
import NodeQuery.Query.Execution

/-!
# What a predicate sees of a node

Whatever a predicate finds out about a node, it finds out by a path that occurs in its expression:
whether the path resolves, and to which value.  So it cannot tell apart two nodes of any kinds that
agree there.  What the nodes on the way have besides the next attribute of the path makes no
difference, and neither do their own values.
-/

namespace NodeQuery.Predicate

namespace Expr

mutual

/-- The paths that occur in an expression, those that `has` asks for among them. -/
def paths : Expr → List (List String)
  | .literal _ => []
  | .path segments => [segments]
  | .list items => pathsAll items
  | .index target position => target.paths ++ position.paths
  | .call _ args => pathsAll args
  | .not operand => operand.paths
  | .and left right => left.paths ++ right.paths
  | .or left right => left.paths ++ right.paths
  | .compare _ left right => left.paths ++ right.paths

def pathsAll : List Expr → List (List String)
  | [] => []
  | item :: items => item.paths ++ pathsAll items

end

end Expr

/-! ## Views that agree -/

/-- The views have the same at each of the paths. -/
def View.AgreeAt (paths : List (List String)) (view other : View) : Prop :=
  ∀ path ∈ paths, view path = other path

theorem View.agreeAt_append {front behind : List (List String)} {view other : View} :
    View.AgreeAt (front ++ behind) view other ↔
      View.AgreeAt front view other ∧ View.AgreeAt behind view other :=
  List.forall_mem_append

namespace Expr

mutual

/-- An expression has the same value or fails by the same error in views that agree at its paths. -/
theorem eval_congr (table : PatternTable) {view other : View} (expr : Expr)
    (agree : View.AgreeAt expr.paths view other) :
    expr.eval table view = expr.eval table other := by
  match expr with
  | .literal value => rfl
  | .path segments => rw [eval, eval, agree segments (List.mem_singleton_self segments)]
  | .list items => rw [eval, eval, evalList_congr table items agree]
  | .index target position =>
      obtain ⟨targets, positions⟩ := View.agreeAt_append.mp agree
      rw [eval, eval, eval_congr table target targets, eval_congr table position positions]
  | .call name args =>
      by_cases len : name = "len"
      · subst len
        match args with
        | [] => simp only [eval]
        | [arg] =>
            have agree := (View.agreeAt_append.mp agree).1
            simp only [eval, eval_congr table arg agree]
        | _ :: _ :: _ => simp only [eval]
      · by_cases has : name = "has"
        · subst has
          -- Of a path that `has` asks for, only whether it resolves is looked at.
          match args with
          | [] => simp only [eval]
          | [arg] =>
              cases arg with
              | path segments => simp only [eval, agree segments List.mem_cons_self]
              | _ => simp only [eval]
          | first :: _ :: _ => cases first <;> simp only [eval]
        · simp [eval, len, has]
  | .not operand => rw [eval, eval, eval_congr table operand agree]
  | .and left right =>
      obtain ⟨lefts, rights⟩ := View.agreeAt_append.mp agree
      rw [eval, eval, eval_congr table left lefts, eval_congr table right rights]
  | .or left right =>
      obtain ⟨lefts, rights⟩ := View.agreeAt_append.mp agree
      rw [eval, eval, eval_congr table left lefts, eval_congr table right rights]
  | .compare op left right =>
      obtain ⟨lefts, rights⟩ := View.agreeAt_append.mp agree
      rw [eval, eval, eval_congr table left lefts, eval_congr table right rights]

theorem evalList_congr (table : PatternTable) {view other : View} (items : List Expr)
    (agree : View.AgreeAt (pathsAll items) view other) :
    evalList table view items = evalList table other items := by
  match items with
  | [] => rfl
  | item :: items =>
      obtain ⟨first, others⟩ := View.agreeAt_append.mp agree
      rw [evalList, evalList, eval_congr table item first, evalList_congr table items others]

end

end Expr

/-! ## Nodes that agree -/

section

variable {Node Key Other OtherKey : Type}
variable (model : NodeModel Node Key) (provider : Provider Node) (node : Node)
variable (otherModel : NodeModel Other OtherKey) (otherProvider : Provider Other) (other : Other)

/-- The path resolves on both nodes or on neither, and it leads to nodes of the same value. -/
structure SameAt (path : List String) : Prop where
  resolves : (provider.resolve node path).isSome = (otherProvider.resolve other path).isSome
  values : ∀ found otherFound, provider.resolve node path = some found →
    otherProvider.resolve other path = some otherFound →
    model.value found = otherModel.value otherFound

variable {model provider node otherModel otherProvider other}

theorem SameAt.nodeView_eq {path : List String}
    (same : SameAt model provider node otherModel otherProvider other path) :
    nodeView model provider node path = nodeView otherModel otherProvider other path := by
  rcases same with ⟨resolves, values⟩
  unfold nodeView
  cases found : provider.resolve node path with
  | none =>
      rw [found, Option.isSome_none, eq_comm, Option.isSome_eq_false_iff, Option.isNone_iff_eq_none]
        at resolves
      rw [resolves]
      rfl
  | some reached =>
      rw [found, Option.isSome_some, eq_comm, Option.isSome_iff_exists] at resolves
      obtain ⟨otherReached, otherFound⟩ := resolves
      rw [otherFound]
      exact congrArg some (values _ _ found otherFound)

/-- Two nodes, of one kind or of two, on which each path of a predicate resolves to the same value
or resolves on neither, get the same answer from the predicate or fail by the same error. -/
theorem matches_eq_of_sameAt_paths (body : String) (limit : Nat)
    (same : ∀ expr, parse body limit = .ok expr → ∀ path ∈ expr.paths,
      SameAt model provider node otherModel otherProvider other path) :
    let predicate := Compiled.ofBody body limit
    predicate.matches? (nodeView model provider node) =
      predicate.matches? (nodeView otherModel otherProvider other) := by
  intro predicate
  simp only [predicate, Compiled.ofBody]
  cases parsed : parse body limit with
  | error error => rfl
  | ok expr =>
      have agree : View.AgreeAt expr.paths (nodeView model provider node)
          (nodeView otherModel otherProvider other) :=
        fun path member => (same expr parsed path member).nodeView_eq
      simp only [Compiled.matches?, expr.eval_congr expr.patterns agree]

end

/-- The nodes that `a` leads to differ in their values and in their other attributes, but the path
goes on to `b`. -/
theorem matches_eq_of_sameAt_paths_for_document :
    let model : NodeModel Nat Nat :=
      { key := id
        attr := fun node name => if name = "a" ∨ name = "b" then some (node + 1) else none
        value := fun node => if node = 2 then .string "x" else .null
        hasClass := fun _ _ => true }
    let document : DocumentNode :=
      ⟨[], .object [("a", .object [("c", .null), ("b", .string "x")]), ("d", .bool true)]⟩
    let predicate := Compiled.ofBody "has(c) or a.b < [1]" 64
    let view := nodeView model model.hooks 0
    let otherView := nodeView DocumentNode.model DocumentNode.model.hooks document
    predicate.matches? view = predicate.matches? otherView ∧ view ["a"] ≠ otherView ["a"] ∧
      predicate.matches? view = .error (.typeMismatch (.compare .lt) "string" "list") := by
  intro model document predicate view otherView
  let expr : Expr := .or (.call "has" [.path ["c"]])
    (.compare .lt (.path ["a", "b"]) (.list [.literal (.int 1)]))
  have parsed : parse "has(c) or a.b < [1]" 64 = .ok expr := by with_unfolding_all rfl
  have same : ∀ other, parse "has(c) or a.b < [1]" 64 = .ok other → ∀ path ∈ other.paths,
      SameAt model model.hooks 0 DocumentNode.model DocumentNode.model.hooks document path := by
    intro other read path member
    rw [parsed] at read
    cases read
    simp only [expr, Expr.paths, Expr.pathsAll, List.append_nil, List.mem_append,
      List.mem_singleton] at member
    rcases member with rfl | rfl
    · refine ⟨rfl, ?_⟩
      rintro found otherFound ⟨⟩
    · refine ⟨rfl, ?_⟩
      rintro found otherFound ⟨⟩ ⟨⟩
      rfl
  have compiled : predicate = ⟨"has(c) or a.b < [1]", .ok expr, expr.patterns⟩ := by
    simp only [predicate, Compiled.ofBody, parsed]
  refine ⟨matches_eq_of_sameAt_paths "has(c) or a.b < [1]" 64 same, ?_, ?_⟩
  · rintro ⟨⟩
  · rw [compiled]
    rfl

end NodeQuery.Predicate
