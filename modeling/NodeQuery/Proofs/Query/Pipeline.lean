import NodeQuery.Query.Execution
import NodeQuery.Proofs.Outcome
import NodeQuery.Proofs.Query.Walk

/-!
# Pipelines as list functions

A group runs as a row of stages, each of which asks the one in front of it for items as it needs
them.  `Eager` says what a row of steps means if each step is given the whole list that the step in
front of it makes.  Both agree for the builtin transforms: which items a group yields does not
depend on when they are computed.
-/

namespace NodeQuery

variable {Node Key : Type}

namespace Eager

/-- Keeps the nodes that `keep` accepts, and all errors. -/
def keepNodes (keep : Node → Bool) (items : List (Item Node)) : List (Item Node) :=
  items.filter fun
    | .ok node => keep node
    | .error _ => true

/-- Keeps the nodes for which the test holds, and all errors; a failed test is an error too. -/
def testNodes (test : Node → Except PredicateError Bool) (items : List (Item Node)) :
    List (Item Node) :=
  replaceNodes (fun node =>
    match test node with
    | .ok true => [.ok node]
    | .ok false => []
    | .error error => [.error (.predicate error)]) items

/-- Replaces each node by its children. -/
def children (provider : Provider Node) (items : List (Item Node)) : List (Item Node) :=
  replaceNodes (fun node => (provider.childList node).map .ok) items

/-- The first error of a list. -/
def firstError? (items : List (Item Node)) : Option Error :=
  items.findSome? fun
    | .ok _ => none
    | .error error => some error

/-- The nodes in front of the first error. -/
def leadingNodes : List (Item Node) → List Node
  | .ok node :: items => node :: leadingNodes items
  | _ => []

/-- The first error, or else the last node. -/
def last (items : List (Item Node)) : List (Item Node) :=
  match firstError? items with
  | some error => [.error error]
  | none => items.getLast?.toList

/-- The node at a position, or else the first error. -/
def nth (position : Nat) (items : List (Item Node)) : List (Item Node) :=
  match (leadingNodes items)[position]? with
  | some node => [.ok node]
  | none => (firstError? items).toList.map .error

/-- Replaces each node by its attribute of the given name and drops it if it has none. -/
def attributes (provider : Provider Node) (name : String) (items : List (Item Node)) :
    List (Item Node) :=
  replaceNodes (fun node => (provider.attr node name).toList.map .ok) items

/-- What a named transform without arguments makes of a list. -/
def pseudo (name : String) (items : List (Item Node)) :
    Except QueryError (List (Item Node)) :=
  if name = "first" then .ok (items.take 1)
  else if name = "last" then .ok (last items)
  else .error (.unknownPseudo name)

/-- What a named transform with arguments makes of a list. -/
def function (provider : Provider Node) (name args : String) (items : List (Item Node)) :
    Except QueryError (List (Item Node)) :=
  if name = "nth-child" then
    match Registry.position? args with
    | some position => .ok (if position < 0 then [] else nth position.toNat items)
    | none => .error (.invalidArgument "nth-child" args "expected an integer")
  else if name = "attr" then
    let trimmed := String.ofList (Text.trim args.toList)
    if trimmed = "" then .error (.invalidArgument "attr" args "expected an attribute name")
    else .ok (attributes provider trimmed items)
  else .error (.unknownFunction name)

/-- What a step makes of a list. -/
def step (model : NodeModel Node Key) (provider : Provider Node) (maxDepth : Nat)
    (items : List (Item Node)) : Step → Except QueryError (List (Item Node))
  | .any => .ok items
  | .tag name => .ok (keepNodes (fun node => provider.tag node == some name) items)
  | .class name => .ok (keepNodes (fun node => provider.hasClass node name) items)
  | .id name => .ok (keepNodes (fun node => provider.id node == some name) items)
  | .predicate body =>
      .ok (testNodes (fun node => body.matches? (nodeView model provider node)) items)
  | .pseudo name => pseudo name items
  | .function name args => function provider name args items
  | .descendants => .ok (replaceNodes (walk provider maxDepth) items)
  | .children => .ok (children provider items)
  | .unsupported link => .error (.unsupportedCombinator link)

/-- The items of a group below one root: its walk, passed through all steps. -/
def group (model : NodeModel Node Key) (provider : Provider Node) (maxDepth : Nat)
    (steps : List Step) (root : Node) : Except QueryError (List (Item Node)) :=
  steps.foldlM (step model provider maxDepth) (walk provider maxDepth root)

end Eager

/-! ## What the steps keep -/

namespace Eager

theorem errorFree_keepNodes {keep : Node → Bool} {items : List (Item Node)} :
    ErrorFree (keepNodes keep items) ↔ ErrorFree items := by
  simp [ErrorFree, keepNodes]

theorem mem_keepNodes {keep : Node → Bool} {items : List (Item Node)} {node : Node} :
    .ok node ∈ keepNodes keep items ↔ .ok node ∈ items ∧ keep node = true := by
  simp [keepNodes]

theorem errorFree_of_testNodes {test : Node → Except PredicateError Bool}
    {items : List (Item Node)} (free : ErrorFree (testNodes test items)) : ErrorFree items :=
  (errorFree_replaceNodes.mp free).1

theorem mem_testNodes {test : Node → Except PredicateError Bool} {items : List (Item Node)}
    {node : Node} :
    .ok node ∈ testNodes test items ↔ .ok node ∈ items ∧ test node = .ok true := by
  rw [testNodes, mem_replaceNodes]
  constructor
  · rintro ⟨before, member, made⟩
    cases outcome : test before with
    | error error => simp [outcome] at made
    | ok holds =>
        cases holds with
        | false => simp [outcome] at made
        | true =>
            simp only [outcome, List.mem_singleton, Except.ok.injEq] at made
            subst made
            exact ⟨member, outcome⟩
  · rintro ⟨member, holds⟩
    exact ⟨node, member, by simp [holds]⟩

theorem mem_children {provider : Provider Node} {items : List (Item Node)} {node : Node} :
    .ok node ∈ children provider items ↔
      ∃ parent, .ok parent ∈ items ∧ provider.IsChild parent node := by
  simp [children, mem_replaceNodes, Provider.IsChild]

end Eager

/-! ## One stage -/

namespace Candidates

@[simp] theorem toList_filterNodes (keep : Node → Bool) (candidates : Candidates Node) :
    (candidates.filterNodes keep).toList = Eager.keepNodes keep candidates.toList :=
  LazySeq.toList_filter _ _

@[simp] theorem toList_tryFilter (test : Node → Except PredicateError Bool)
    (candidates : Candidates Node) :
    (candidates.tryFilter test).toList = Eager.testNodes test candidates.toList := by
  rw [tryFilter, LazySeq.toList_filterMap, Eager.testNodes, Eager.replaceNodes,
    List.filterMap_eq_flatMap_toList]
  congr 1
  funext item
  cases item with
  | error error => rfl
  | ok node =>
      cases outcome : test node with
      | error error => simp [outcome]
      | ok holds => cases holds <;> simp [outcome]

@[simp] theorem toList_children (provider : Provider Node) (candidates : Candidates Node) :
    (candidates.children provider).toList = Eager.children provider candidates.toList := by
  rw [children, expand, LazySeq.toList_flatMap]
  rfl

@[simp] theorem toList_attributes (provider : Provider Node) (name : String)
    (candidates : Candidates Node) :
    (candidates.mapNodes? fun node => provider.attr node name).toList =
      Eager.attributes provider name candidates.toList := by
  rw [mapNodes?, LazySeq.toList_filterMap, Eager.attributes, Eager.replaceNodes,
    List.filterMap_eq_flatMap_toList]
  congr 1
  funext item
  cases item with
  | error error => rfl
  | ok node => cases found : provider.attr node name <;> simp [found]

/-- Behind a node, the transform `:last` has that node to fall back on. -/
theorem toList_lastFrom (latest : Option Node) (cell : LazyCell (Item Node)) :
    (lastFrom latest cell).toList = Eager.last (latest.toList.map .ok ++ cell.toList) := by
  induction cell generalizing latest with
  | done => cases latest <;> rfl
  | item value rest ih =>
      cases value with
      | error error => cases latest <;> simp [lastFrom, Eager.last, Eager.firstError?]
      | ok node =>
          rw [lastFrom, ih]
          cases latest with
          | none => rfl
          | some earlier => simp [Eager.last, Eager.firstError?, List.getLast?_cons_cons]

@[simp] theorem toList_last (candidates : Candidates Node) :
    candidates.last.toList = Eager.last candidates.toList :=
  toList_lastFrom none _

theorem toList_nthFrom (position : Nat) (cell : LazyCell (Item Node)) :
    (nthFrom position cell).toList = Eager.nth position cell.toList := by
  induction cell generalizing position with
  | done => cases position <;> rfl
  | item value rest ih =>
      cases value with
      | error error =>
          cases position <;> simp [nthFrom, Eager.nth, Eager.leadingNodes, Eager.firstError?]
      | ok node =>
          cases position with
          | zero => simp [nthFrom, Eager.nth, Eager.leadingNodes]
          | succ position =>
              simpa [nthFrom, Eager.nth, Eager.leadingNodes, Eager.firstError?] using ih () position

@[simp] theorem toList_nth (position : Nat) (candidates : Candidates Node) :
    (candidates.nth position).toList = Eager.nth position candidates.toList :=
  toList_nthFrom position _

end Candidates

variable {model : NodeModel Node Key} {context : Context Node}

private theorem toList_pseudo {name : String} {transform : Pseudo Node}
    (found : (Registry.builtin : Registry Node).pseudo? name = some transform)
    (candidates : Candidates Node) :
    Eager.pseudo name candidates.toList = .ok (transform context candidates).toList := by
  simp only [Registry.pseudo?, Registry.builtin, List.lookup_cons, List.lookup_nil] at found
  unfold Eager.pseudo
  by_cases first : name = "first"
  · subst first
    simp only [beq_self_eq_true, Option.some.injEq] at found
    simp [← found, Registry.first]
  · by_cases last : name = "last"
    · subst last
      simp only [beq_false_of_ne first, beq_self_eq_true, Option.some.injEq] at found
      simp [← found, Registry.last]
    · simp [beq_false_of_ne first, beq_false_of_ne last] at found

private theorem toList_function {name args : String} {transform : Function Node}
    (found : (Registry.builtin : Registry Node).function? name = some transform)
    (candidates : Candidates Node) :
    (transform context args candidates).map LazySeq.toList =
      Eager.function context.provider name args candidates.toList := by
  simp only [Registry.function?, Registry.builtin, List.lookup_cons, List.lookup_nil] at found
  unfold Eager.function
  by_cases nthChild : name = "nth-child"
  · subst nthChild
    simp only [beq_self_eq_true, Option.some.injEq] at found
    simp only [← found, Registry.nthChild, if_pos]
    cases Registry.position? args with
    | none => rfl
    | some position =>
        by_cases negative : position < 0
        · simp [negative, Except.map]
        · simp [negative, Except.map]
  · by_cases attr : name = "attr"
    · subst attr
      simp only [beq_false_of_ne nthChild, beq_self_eq_true, Option.some.injEq] at found
      simp only [← found, Registry.attr, if_neg nthChild, if_pos]
      split
      · rfl
      · simp [Except.map]
    · simp [beq_false_of_ne nthChild, beq_false_of_ne attr] at found

variable (model) (context)

/-- A stage makes of its input what its step makes of the list. -/
theorem Stage.toList_apply {step : Step} {stage : Stage Node}
    (resolved : step.resolve .builtin = .ok stage) (candidates : Candidates Node) :
    (stage.apply model context candidates).map LazySeq.toList =
      Eager.step model context.provider context.limits.maxDepth candidates.toList step := by
  cases step with
  | pseudo name =>
      cases found : (Registry.builtin : Registry Node).pseudo? name with
      | none => simp [Step.resolve, found] at resolved
      | some transform =>
          simp only [Step.resolve, found, Except.ok.injEq] at resolved
          subst resolved
          exact (toList_pseudo found candidates).symm
  | function name args =>
      cases found : (Registry.builtin : Registry Node).function? name with
      | none => simp [Step.resolve, found] at resolved
      | some transform =>
          simp only [Step.resolve, found, Except.ok.injEq] at resolved
          subst resolved
          exact toList_function found candidates
  | unsupported link => simp [Step.resolve] at resolved
  | _ =>
      simp only [Step.resolve, Except.ok.injEq] at resolved
      subst resolved
      simp [Stage.apply, Eager.step, Except.map]

theorem Stage.toList_foldlM_apply {steps : List Step} {stages : List (Stage Node)}
    (resolved : List.Forall₂ (fun step stage => step.resolve .builtin = .ok stage) steps stages)
    (candidates : Candidates Node) :
    (stages.foldlM (Stage.apply model context) candidates).map LazySeq.toList =
      steps.foldlM (Eager.step model context.provider context.limits.maxDepth)
        candidates.toList := by
  induction resolved generalizing candidates with
  | nil => rfl
  | @cons step stage steps stages first _ ih =>
      have applied := Stage.toList_apply model context first candidates
      rw [List.foldlM_cons, List.foldlM_cons, ← applied]
      cases stage.apply model context candidates with
      | error error => rfl
      | ok next => exact ih next

/-! ## Whole groups -/

theorem toList_implicitWalk (provider : Provider Node) (limit : Nat) (root : Node) :
    (Candidates.descendants provider limit (.singleton (.ok root))).toList =
      Eager.walk provider limit root := by
  simp [Eager.replaceNodes]

/-- Every group of a program yields, below every root, the items that the steps make of the root's
walk when they are applied to whole lists.  If a transform rejects its arguments, both fail
alike. -/
theorem groups_yield_eager (program : Program) (model : NodeModel Node Key)
    (context : Context Node) (root : Node) {plan : List (List (Stage Node))}
    (resolved : program.resolve .builtin = .ok plan) :
    List.Forall₂
      (fun steps stages =>
        (groupCandidates model context stages root).map LazySeq.toList =
          Eager.group model context.provider context.limits.maxDepth steps root)
      program.groups plan := by
  apply (forall₂_of_mapM_eq_ok resolved).imp
  intro steps stages names
  have row := Stage.toList_foldlM_apply model context
    (forall₂_of_mapM_eq_ok names)
    (Candidates.descendants context.provider context.limits.maxDepth (.singleton (.ok root)))
  rw [toList_implicitWalk] at row
  exact row

/-- A ring of nodes, whose walk the depth limit cuts behind its second node. -/
theorem groups_yield_eager_on_ring :
    let ring : NodeModel Nat Nat := { key := id, children := fun
      | 0 => some [1, 2]
      | 2 => some [0]
      | _ => none }
    let cut : Error := .query (.depthLimitExceeded 1)
    let program : Program :=
      ⟨"*:nth-child(1), * > *:last", ⟨[]⟩,
        [[.any, .function "nth-child" "1"], [.any, .children, .any, .pseudo "last"]]⟩
    let plan : List (List (Stage Nat)) :=
      [[.any, .function Registry.nthChild "1"], [.any, .children, .any, .pseudo Registry.last]]
    program.resolve .builtin = .ok plan ∧
      plan.map (fun stages =>
        (groupCandidates ring ⟨ring.hooks, ⟨1, 0⟩⟩ stages 0).map LazySeq.toList) =
        [.ok [.ok 1], .ok [.error cut]] := by
  intro ring cut program plan
  have resolved : program.resolve .builtin = .ok plan := rfl
  have yields := groups_yield_eager program ring ⟨ring.hooks, ⟨1, 0⟩⟩ 0 resolved
  obtain ⟨nth, last, _⟩ := by simpa only [program, plan, List.forall₂_cons] using yields
  refine ⟨resolved, ?_⟩
  simp only [plan, List.map_cons, List.map_nil, nth, last]
  rfl

end NodeQuery
