import NodeQuery.Proofs.Query.Composition
import NodeQuery.Proofs.Selector.Steps

/-!
# Matching

What a selector means without any order of search: a node for each step, each reached from the one
before it as the combinator between them says, and each passing all tests of its step.  A query
that has an answer finds exactly the last nodes of such rows.
-/

namespace NodeQuery

variable {Node Key : Type}

/-- Tests of single nodes, and the combinators that follow child edges. -/
def Operation.isPlain : Operation → Bool
  | .any | .tag _ | .class _ | .id _ | .predicate _ => true
  | .combinator .descendant | .combinator .child => true
  | .pseudo _ | .function _ _ | .combinator _ => false

/-- The second node is reached from the first as the combinator says. -/
def Combinator.Leads (provider : Provider Node) : Combinator → Node → Node → Prop
  | .descendant, node, next => provider.Reaches node next
  | .child, node, next => provider.IsChild node next
  | .sibling, _, _ | .adjacent, _, _ => False

section

variable (model : NodeModel Node Key) (provider : Provider Node) (nesting : Nat)

/-- The node passes the test; a predicate has to hold without an error. -/
def Operation.Passes (node : Node) : Operation → Prop
  | .any => True
  | .tag name => provider.tag node = some name
  | .class name => provider.hasClass node name = true
  | .id name => provider.id node = some name
  | .predicate body =>
      (Predicate.Compiled.ofBody body nesting).matches? (nodeView model provider node) = .ok true
  | .pseudo _ | .function _ _ | .combinator _ => False

/-- From a node, a row of further steps can be matched so that the last one is matched by the given
node. -/
inductive Steps.Match : Node → List (Combinator × List Operation) → Node → Prop where
  | done (node : Node) : Match node [] node
  | step {node next last : Node} {link : Combinator} {tests : List Operation}
      {further : List (Combinator × List Operation)} :
      link.Leads provider node next →
      (∀ test ∈ tests, test.Passes model provider nesting next) →
      Match next further last →
      Match node ((link, tests) :: further) last

/-- The node ends a match of the group below the root; its first step may be matched by the root
itself or by anything below it. -/
def Group.Selects (group : Group) (root node : Node) : Prop :=
  Steps.Match model provider nesting root
    ((.descendant, group.steps.first) :: group.steps.further) node

/-- What one operation makes of a candidate: a test keeps it, a combinator moves on from it. -/
def Operation.Moves (node next : Node) : Operation → Prop
  | .combinator link => link.Leads provider node next
  | test => node = next ∧ test.Passes model provider nesting node

/-- What a row of operations makes of a candidate. -/
def Operation.Trace : List Operation → Node → Node → Prop
  | [], node, last => node = last
  | operation :: operations, node, last =>
      ∃ next, operation.Moves model provider nesting node next ∧ Trace operations next last

end

/-! ## Traces are matches -/

variable {model : NodeModel Node Key} {provider : Provider Node} {nesting : Nat}

theorem Steps.match_cons_iff {node last : Node} {link : Combinator} {tests : List Operation}
    {further : List (Combinator × List Operation)} :
    Steps.Match model provider nesting node ((link, tests) :: further) last ↔
      ∃ next, link.Leads provider node next ∧
        (∀ test ∈ tests, test.Passes model provider nesting next) ∧
        Steps.Match model provider nesting next further last := by
  constructor
  · intro found
    cases found with
    | step leads passes behind => exact ⟨_, leads, passes, behind⟩
  · rintro ⟨next, leads, passes, behind⟩
    exact .step leads passes behind

/-- The operations up to the next combinator test the node at hand; the steps behind them are
matched from it. -/
theorem Operation.trace_iff_match {operations : List Operation} {node last : Node} :
    Operation.Trace model provider nesting operations node last ↔
      (∀ test ∈ (Steps.ofOperations operations).first,
        test.Passes model provider nesting node) ∧
      Steps.Match model provider nesting node (Steps.ofOperations operations).further last := by
  induction operations generalizing node with
  | nil =>
      simp only [Trace, Steps.ofOperations, List.not_mem_nil, false_implies, implies_true,
        true_and]
      constructor
      · rintro rfl
        exact .done node
      · intro found
        cases found
        rfl
  | cons operation operations ih =>
      cases operation with
      | combinator link =>
          simp only [Trace, Moves, Steps.ofOperations, Steps.cons_combinator,
            List.not_mem_nil, false_implies, implies_true, true_and, Steps.match_cons_iff, ih]
      | _ =>
          simp only [Trace, Moves, Steps.ofOperations, Steps.cons, List.forall_mem_cons, ih]
          constructor
          · rintro ⟨_, ⟨rfl, passes⟩, behind⟩
            exact ⟨⟨passes, behind.1⟩, behind.2⟩
          · rintro ⟨⟨passes, others⟩, behind⟩
            exact ⟨node, ⟨rfl, passes⟩, others, behind⟩

theorem Group.selects_iff_trace {group : Group} {root last : Node} :
    group.Selects model provider nesting root last ↔
      ∃ node, provider.Reaches root node ∧
        Operation.Trace model provider nesting group.operations node last := by
  simp only [Selects, Steps.match_cons_iff, Operation.trace_iff_match, Group.steps,
    Combinator.Leads]

/-! ## Plain steps on lists -/

namespace Eager

/-- A plain step passes errors on, so that a list without errors comes from one without errors; and
its nodes are those that the operation makes of the nodes it is given. -/
theorem step_spec {operation : Operation} (plain : operation.isPlain = true) {maxDepth : Nat}
    {items next : List (Item Node)}
    (made : step model provider maxDepth items (.ofOperation nesting operation) = .ok next)
    (free : ErrorFree next) :
    ErrorFree items ∧ ∀ node, .ok node ∈ next ↔
      ∃ before, .ok before ∈ items ∧ operation.Moves model provider nesting before node := by
  cases operation with
  | any =>
      cases made
      exact ⟨free, fun node => by simp [Operation.Moves, Operation.Passes]⟩
  | tag name =>
      cases made
      refine ⟨errorFree_keepNodes.mp free, ?_⟩
      intro node
      simp [mem_keepNodes, Operation.Moves, Operation.Passes]
  | «class» name =>
      cases made
      refine ⟨errorFree_keepNodes.mp free, ?_⟩
      intro node
      simp [mem_keepNodes, Operation.Moves, Operation.Passes]
  | id name =>
      cases made
      refine ⟨errorFree_keepNodes.mp free, ?_⟩
      intro node
      simp [mem_keepNodes, Operation.Moves, Operation.Passes]
  | predicate body =>
      cases made
      refine ⟨errorFree_of_testNodes free, ?_⟩
      intro node
      simp [mem_testNodes, Operation.Moves, Operation.Passes]
  | pseudo name => simp [Operation.isPlain] at plain
  | function name args => simp [Operation.isPlain] at plain
  | combinator link =>
      cases link with
      | descendant =>
          cases made
          rcases errorFree_replaceNodes.mp free with ⟨freeItems, freeWalks⟩
          refine ⟨freeItems, ?_⟩
          intro node
          rw [mem_replaceNodes]
          apply exists_congr
          intro before
          apply and_congr_right
          intro member
          exact mem_walk_iff (freeWalks before member)
      | child =>
          cases made
          exact ⟨(errorFree_replaceNodes.mp free).1, fun node => mem_children⟩
      | sibling => simp [Operation.isPlain] at plain
      | adjacent => simp [Operation.isPlain] at plain

/-- The same for a row of plain steps.  The list behind the whole row is known to be free of errors
first; so the induction goes along the row and takes this back to its start. -/
theorem foldlM_step_spec {operations : List Operation}
    (plain : ∀ operation ∈ operations, operation.isPlain = true) {maxDepth : Nat}
    {items found : List (Item Node)}
    (made : (operations.map (Step.ofOperation nesting)).foldlM (step model provider maxDepth)
      items = .ok found)
    (free : ErrorFree found) :
    ErrorFree items ∧ ∀ node, .ok node ∈ found ↔
      ∃ before, .ok before ∈ items ∧
        Operation.Trace model provider nesting operations before node := by
  induction operations generalizing items with
  | nil =>
      cases made
      exact ⟨free, fun node => by simp [Operation.Trace]⟩
  | cons operation operations ih =>
      rcases List.forall_mem_cons.mp plain with ⟨plainHead, plainTail⟩
      rcases foldlM_cons_eq_ok.mp made with ⟨next, head, tail⟩
      rcases ih plainTail tail with ⟨freeNext, memFound⟩
      rcases step_spec plainHead head freeNext with ⟨freeItems, memNext⟩
      refine ⟨freeItems, ?_⟩
      intro node
      simp only [memFound, memNext, Operation.Trace]
      constructor
      · rintro ⟨middle, ⟨before, member, moves⟩, trace⟩
        exact ⟨before, member, middle, moves, trace⟩
      · rintro ⟨before, member, middle, moves, trace⟩
        exact ⟨middle, ⟨before, member, moves⟩, trace⟩

end Eager

/-! ## Plain groups -/

/-- Plain operations have no names to resolve, so every registry will do. -/
theorem Step.resolve_plain {operation : Operation} (plain : operation.isPlain = true)
    (left right : Registry Node) :
    (Step.ofOperation nesting operation).resolve left =
      (Step.ofOperation nesting operation).resolve right := by
  cases operation with
  | pseudo name => simp [Operation.isPlain] at plain
  | function name args => simp [Operation.isPlain] at plain
  | combinator link => cases link <;> rfl
  | _ => rfl

/-- A row of plain operations is resolved by the builtin registry as by any other. -/
theorem Step.resolve_plain_row {operations : List Operation} {registry : Registry Node}
    {stages : List (Stage Node)} (plain : ∀ operation ∈ operations, operation.isPlain = true)
    (resolved : (operations.map (Step.ofOperation nesting)).mapM (Step.resolve registry) =
      .ok stages) :
    List.Forall₂ (fun step stage => step.resolve .builtin = .ok stage)
      (operations.map (Step.ofOperation nesting)) stages := by
  have pairs := forall₂_of_mapM_eq_ok resolved
  rw [List.forall₂_map_left_iff] at pairs ⊢
  refine ((List.forall₂_and_left _ _).mpr ⟨plain, pairs⟩).imp ?_
  intro operation stage names
  rw [Step.resolve_plain names.1 .builtin registry]
  exact names.2

/-- The candidates of a group of plain operations are the items that its steps make of a walk. -/
theorem Group.eager_of_candidates {operations : List Operation} {registry : Registry Node}
    {limits : Limits} {stages : List (Stage Node)} {root : Node} {candidates : Candidates Node}
    (plain : ∀ operation ∈ operations, operation.isPlain = true)
    (resolved : (operations.map (Step.ofOperation nesting)).mapM (Step.resolve registry) =
      .ok stages)
    (setUp : groupCandidates model ⟨provider, limits⟩ stages root = .ok candidates) :
    Eager.group model provider limits.maxDepth (operations.map (Step.ofOperation nesting)) root =
      .ok candidates.toList := by
  have row := Stage.toList_foldlM_apply model ⟨provider, limits⟩
    (Step.resolve_plain_row plain resolved)
    (Candidates.descendants provider limits.maxDepth (.singleton (.ok root)))
  have walked : (groupCandidates model ⟨provider, limits⟩ stages root).map LazySeq.toList =
      .ok candidates.toList := by
    rw [setUp]
    rfl
  rw [toList_implicitWalk] at row
  exact row.symm.trans walked

theorem Group.yields_iff_selects {group : Group} {registry : Registry Node} {limits : Limits}
    {stages : List (Stage Node)} {root : Node}
    (plain : ∀ operation ∈ group.operations, operation.isPlain = true)
    (resolved : (group.operations.map (Step.ofOperation nesting)).mapM (Step.resolve registry) =
      .ok stages)
    (succeeds : GroupSucceeds model ⟨provider, limits⟩ stages root) (node : Node) :
    GroupYields model ⟨provider, limits⟩ stages root node ↔
      group.Selects model provider nesting root node := by
  rcases succeeds with ⟨candidates, setUp, free⟩
  rcases Eager.foldlM_step_spec plain (Group.eager_of_candidates plain resolved setUp) free with
    ⟨freeWalk, found⟩
  simp only [GroupYields, setUp, Except.ok.injEq, exists_eq_left', found,
    Eager.mem_walk_iff freeWalk, Group.selects_iff_trace]

/-- A query of plain steps that has an answer finds exactly the matches of its selector, up to the
identity of nodes.  No match is missed: if a walk had been cut or a predicate had failed, there
would be no answer. -/
theorem Program.run_finds_matches [BEq Key] [Hashable Key] [EquivBEq Key] [LawfulHashable Key]
    (model : NodeModel Node Key) (provider : Provider Node) (registry : Registry Node)
    (limits : Limits) (source : String) (selector : Selector) (nesting : Nat)
    (roots result : List Node)
    (plain : ∀ group ∈ selector.groups, ∀ operation ∈ group.operations,
      operation.isPlain = true)
    (answered : (Program.ofSelector source selector nesting).run model provider registry limits
      roots = .ok result) (key : Key) :
    (∃ node ∈ result, (model.key node == key) = true) ↔
      ∃ root ∈ roots, ∃ group ∈ selector.groups, ∃ node,
        group.Selects model provider nesting root node ∧ (model.key node == key) = true := by
  rcases Program.run_spec answered with ⟨plan, resolved, succeed, keys⟩
  rw [keys]
  apply exists_congr
  intro root
  apply and_congr_right
  intro rootMember
  have pairs := forall₂_of_mapM_eq_ok resolved
  rw [Program.ofSelector, List.forall₂_map_left_iff] at pairs
  symm
  apply exists_mem_congr_of_forall₂ pairs
  intro group groupMember stages stagesMember names
  have succeeds := succeed root rootMember stages stagesMember
  simp only [Group.yields_iff_selects (plain group groupMember) names succeeds]

/-- A node that two parents share is found once; both ways to it are matches. -/
theorem run_finds_matches_in_diamond :
    let diamond : NodeModel Nat Nat := {
      key := id
      tag := fun node => if node = 3 then some "leaf" else none
      children := fun
        | 0 => some [1, 2]
        | 1 | 2 => some [3]
        | _ => none }
    let group : Group := ⟨[.any, .combinator .child, .tag "leaf", .predicate "1"]⟩
    (Program.ofSelector "* > leaf[1]" ⟨[group]⟩ 1).run diamond diamond.hooks .empty ⟨2, 1⟩ [0] =
        .ok [3] ∧
      ∃ node, group.Selects diamond diamond.hooks 1 0 node ∧ (diamond.key node == 3) = true := by
  intro diamond group
  have answered : (Program.ofSelector "* > leaf[1]" ⟨[group]⟩ 1).run diamond diamond.hooks .empty
      ⟨2, 1⟩ [0] = .ok [3] := by
    -- Hash sets do not compute in proofs; the first nodes of each key do.
    rw [run_of_resolved rfl]
    decide +kernel
  have plain : ∀ other ∈ [group], ∀ operation ∈ other.operations,
      operation.isPlain = true := by decide
  refine ⟨answered, ?_⟩
  have matched := (Program.run_finds_matches diamond diamond.hooks .empty ⟨2, 1⟩ _ ⟨[group]⟩ 1 [0]
    [3] plain answered 3).mp ⟨3, List.mem_singleton_self 3, rfl⟩
  rcases matched with ⟨root, rootMember, other, groupMember, found⟩
  cases List.mem_singleton.mp rootMember
  cases List.mem_singleton.mp groupMember
  exact found

end NodeQuery
