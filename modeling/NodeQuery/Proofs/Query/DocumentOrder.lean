import Mathlib.Data.List.Pairwise
import NodeQuery.Proofs.Query.Redundancy

/-!
# Document order

The items of a group are in no order as soon as matched nodes lie below each other: each of them is
walked again.  But if a group has no other combinator than the blank, every walk lists nodes in
their order, and walks that overlap lie one inside the other, with the outer one in front.  So the
items, without those that repeat earlier ones, are in the order of the whole walk below the root,
and this stays so from step to step.  The answer leaves the repeated ones out.
-/

namespace NodeQuery

variable {Node Key : Type}

/-! ## Listings without a limit -/

namespace Provider

/-- The second list has the nodes at and below those of the first one in pre-order, down to the
leaves.  Below a cycle there is no such list. -/
inductive Listing (provider : Provider Node) : List Node → List Node → Prop where
  | nil : Listing provider [] []
  | cons {node : Node} {row below behind : List Node}
      (children : Listing provider (provider.childList node) below)
      (rest : Listing provider row behind) :
      Listing provider (node :: row) (node :: below ++ behind)

variable {provider : Provider Node} {row nodes : List Node}

/-- There is a listing if there is one below each node. -/
theorem exists_listing_of_children
    (below : ∀ node ∈ row, ∃ listed, provider.Listing (provider.childList node) listed) :
    ∃ nodes, provider.Listing row nodes := by
  induction row with
  | nil => exact ⟨[], .nil⟩
  | cons node row ih =>
      obtain ⟨here, others⟩ := List.forall_mem_cons.mp below
      obtain ⟨listed, children⟩ := here
      obtain ⟨behind, rest⟩ := ih others
      exact ⟨_, .cons children rest⟩

/-- Whatever is reached from one of the nodes is listed, and nothing else. -/
theorem Listing.mem_iff (listing : provider.Listing row nodes) {target : Node} :
    target ∈ nodes ↔ ∃ node ∈ row, provider.Reaches node target := by
  induction listing with
  | nil => simp
  | @cons node row below behind _ _ childrenIH restIH =>
      have first : target ∈ node :: below ↔ provider.Reaches node target := by
        rw [List.mem_cons, childrenIH, Reaches, Relation.ReflTransGen.cases_head_iff, eq_comm]
        rfl
      rw [List.mem_append, first, restIH, List.exists_mem_cons_iff]

end Provider

namespace Eager

variable {provider : Provider Node} {limit : Nat} {row nodes : List Node}

theorem childList_eq_nil_of_errorFree {node : Node}
    (free : ErrorFree (preorder provider limit 0 node)) : provider.childList node = [] := by
  rw [preorder] at free
  split at free
  case isTrue leaf => exact List.isEmpty_iff.mp leaf
  case isFalse => exact absurd free not_errorFree_error_cons

/-- A listing that is cut nowhere reaches the leaves. -/
theorem exists_listing_of_preorder {depth : Nat}
    (free : ∀ node ∈ row, ErrorFree (preorder provider limit depth node)) :
    ∃ nodes, provider.Listing row nodes := by
  induction depth generalizing row with
  | zero =>
      apply Provider.exists_listing_of_children
      intro node member
      rw [childList_eq_nil_of_errorFree (free node member)]
      exact ⟨[], .nil⟩
  | succ depth ih =>
      apply Provider.exists_listing_of_children
      intro node member
      have freeHere := free node member
      rw [preorder, errorFree_ok_cons, errorFree_flatMap] at freeHere
      exact ih freeHere

/-- It is the listing without a limit. -/
theorem preorder_eq_map_of_listing (listing : provider.Listing row nodes) {depth : Nat}
    (free : ∀ node ∈ row, ErrorFree (preorder provider limit depth node)) :
    row.flatMap (preorder provider limit depth) = nodes.map .ok := by
  induction listing generalizing depth with
  | nil => rfl
  | @cons node row below behind children _ childrenIH restIH =>
      have first : preorder provider limit depth node = (node :: below).map .ok := by
        have freeHere := free node List.mem_cons_self
        cases depth with
        | zero =>
            have leaf := childList_eq_nil_of_errorFree freeHere
            rw [leaf] at children
            cases children
            exact preorder_of_leaf leaf
        | succ depth =>
            rw [preorder, errorFree_ok_cons, errorFree_flatMap] at freeHere
            rw [preorder, childrenIH freeHere]
            rfl
      rw [List.flatMap_cons, first, restIH fun other member => free other (.tail _ member),
        List.map_append]

theorem exists_listing_of_walk {root : Node} (free : ErrorFree (walk provider limit root)) :
    ∃ nodes, provider.Listing [root] nodes := by
  apply exists_listing_of_preorder
  intro node member
  cases List.mem_singleton.mp member
  exact errorFree_untilError.mp free

theorem walk_eq_map_of_listing {root : Node} (listing : provider.Listing [root] nodes)
    (free : ErrorFree (walk provider limit root)) :
    walk provider limit root = nodes.map .ok := by
  have whole : ErrorFree (preorder provider limit limit root) := errorFree_untilError.mp free
  rw [walk, untilError_eq_self whole, ← preorder_eq_map_of_listing listing,
    List.flatMap_singleton]
  intro node member
  cases List.mem_singleton.mp member
  exact whole

/-- A walk without an error is a listing. -/
theorem listing_of_walk {root : Node} (whole : walk provider limit root = nodes.map .ok) :
    provider.Listing [root] nodes := by
  have free : ErrorFree (walk provider limit root) := by
    rw [whole]
    simp [ErrorFree]
  obtain ⟨others, listing⟩ := exists_listing_of_walk free
  have same := (walk_eq_map_of_listing listing free).symm.trans whole
  have injective : Function.Injective (Except.ok : Node → Item Node) := fun _ _ => Except.ok.inj
  exact injective.list_map same ▸ listing

/-! ## Lists with repetitions -/

namespace Repeats

variable {seen : List Node} {left right middle left' right' : List (Item Node)}

theorem refl (seen : List Node) (items : List (Item Node)) : Repeats seen items items := by
  have repeats : Repeats seen (items ++ []) (items ++ []) := append_left fun _ => .nil _
  simpa using repeats

/-- What repeats nothing of its own may stand behind what does not. -/
theorem append (first : Repeats seen left right) (second : Repeats [] left' right') :
    Repeats seen (left ++ left') (right ++ right') := by
  induction first with
  | nil seen => exact second.mono (List.nil_subset seen)
  | error => exact .error _ _ _ _
  | node _ ih => exact .node ih
  | again member _ ih => exact .again member ih

theorem trans (first : Repeats seen left middle) (second : Repeats seen middle right) :
    Repeats seen left right := by
  induction second generalizing left with
  | nil => exact first
  | error =>
      cases first
      exact .error _ _ _ _
  | @node seen node middle right _ ih =>
      cases first with
      | node behind => exact .node (ih behind)
      | again member behind =>
          -- The node was put in already; the lists behind it must not count it as new.
          have known : node :: seen ⊆ seen := List.cons_subset.mpr ⟨member, List.Subset.refl _⟩
          exact .again member ((ih (behind.mono (List.subset_cons_self node seen))).mono known)
  | again member _ ih => exact .again member (ih first)

/-- The first list has no nodes and no errors that the second one lacks. -/
theorem errorFree (repeats : Repeats seen left right) (free : ErrorFree right) :
    ErrorFree left := by
  induction repeats with
  | nil => exact errorFree_nil
  | error => exact absurd free not_errorFree_error_cons
  | node _ ih => exact errorFree_ok_cons.mpr (ih (errorFree_ok_cons.mp free))
  | again _ _ ih => exact ih (errorFree_ok_cons.mp free)

end Repeats

/-! ## Items in order -/

/-- The items without those that repeat earlier ones are some of the given nodes, in their order. -/
def InOrder (nodes : List Node) (items : List (Item Node)) : Prop :=
  ∃ kept : List Node, kept.Sublist nodes ∧ Repeats [] (kept.map .ok) items

/-- The walk of a node makes the walks of the nodes below it superfluous. -/
theorem inOrder_walk_walks {node : Node} {below inner : List Node}
    (listing : provider.Listing [node] (node :: below))
    (free : ErrorFree (walk provider limit node)) (sublist : inner.Sublist below) :
    InOrder (node :: below)
      (replaceNodes (walk provider limit) ((node :: inner).map .ok)) := by
  have reached : ∀ target ∈ inner, provider.Reaches node target := by
    intro target member
    simpa using listing.mem_iff.mp (.tail node (sublist.subset member))
  have freeInner : ErrorFree (replaceNodes (walk provider limit) (inner.map .ok)) := by
    apply errorFree_replaceNodes.mpr
    constructor
    · simp [ErrorFree]
    · intro target member
      exact errorFree_walk_of_reaches free (reached target (by simpa using member))
  have known : ∀ target, .ok target ∈ replaceNodes (walk provider limit) (inner.map .ok) →
      .ok target ∈ walk provider limit node := by
    intro target member
    obtain ⟨before, among, found⟩ := mem_replaceNodes.mp member
    have path := reached before (by simpa using among)
    have onward := (mem_walk_iff (errorFree_walk_of_reaches free path)).mp found
    exact (mem_walk_iff free).mpr (path.trans onward)
  refine ⟨node :: below, .refl _, ?_⟩
  rw [← walk_eq_map_of_listing listing free]
  have repeats : Repeats [] (walk provider limit node ++ [])
      (walk provider limit node ++ (replaceNodes (walk provider limit) (inner.map .ok) ++ [])) :=
    .append_again (fun _ => ⟨freeInner, known⟩) .nil
  simpa [replaceNodes] using repeats

/-- Nodes that are listed one after the other may be walked one after the other: where one of them
lies below another, its walk repeats a part of the other's. -/
theorem inOrder_walks (listing : provider.Listing row nodes)
    (free : ∀ node ∈ row, ErrorFree (walk provider limit node)) {found : List Node}
    (sublist : found.Sublist nodes) :
    InOrder nodes (replaceNodes (walk provider limit) (found.map .ok)) := by
  induction listing generalizing found with
  | nil =>
      cases sublist
      exact ⟨[], .slnil, .nil []⟩
  | @cons node row below behind children _ childrenIH restIH =>
      obtain ⟨freeHere, freeRest⟩ := List.forall_mem_cons.mp free
      obtain ⟨upper, lower, rfl, upperSub, lowerSub⟩ := List.sublist_append_iff.mp sublist
      obtain ⟨keptLower, lowerKept, lowerRepeats⟩ := restIH freeRest lowerSub
      have whole : InOrder (node :: below)
          (replaceNodes (walk provider limit) (upper.map .ok)) := by
        cases upperSub with
        | cons _ inside =>
            have freeBelow : ∀ child ∈ provider.childList node,
                ErrorFree (walk provider limit child) :=
              fun child edge => errorFree_walk_of_reaches freeHere (.single edge)
            obtain ⟨kept, sub, repeats⟩ := childrenIH freeBelow inside
            exact ⟨kept, sub.cons node, repeats⟩
        | cons_cons _ inside =>
            have single : provider.Listing [node] (node :: below) := by
              simpa using Provider.Listing.cons children .nil
            exact inOrder_walk_walks single freeHere inside
      obtain ⟨keptUpper, upperKept, upperRepeats⟩ := whole
      refine ⟨keptUpper ++ keptLower, upperKept.append lowerKept, ?_⟩
      simpa [replaceNodes] using upperRepeats.append lowerRepeats

/-- What replaces nodes by themselves or by nothing, without an error, leaves items out. -/
theorem replaceNodes_sublist {f : Node → List (Item Node)} {items : List (Item Node)}
    (shrinks : ∀ node, ErrorFree (f node) → (f node).Sublist [.ok node])
    (free : ErrorFree (replaceNodes f items)) : (replaceNodes f items).Sublist items := by
  induction items with
  | nil => exact .slnil
  | cons item items ih =>
      obtain ⟨freeItems, freeMade⟩ := errorFree_replaceNodes.mp free
      cases item with
      | error error => exact absurd freeItems not_errorFree_error_cons
      | ok node =>
          apply (shrinks node (freeMade node List.mem_cons_self)).append
          apply ih
          apply errorFree_replaceNodes.mpr
          exact ⟨errorFree_ok_cons.mp freeItems,
            fun other member => freeMade other (.tail _ member)⟩

namespace InOrder

variable {items : List (Item Node)}

/-- A test leaves items in order. -/
theorem replaceNodes {f : Node → List (Item Node)} (order : InOrder nodes items)
    (shrinks : ∀ node, ErrorFree (f node) → (f node).Sublist [.ok node])
    (free : ErrorFree (Eager.replaceNodes f items)) :
    InOrder nodes (Eager.replaceNodes f items) := by
  obtain ⟨kept, sublist, repeats⟩ := order
  have replaced : Repeats [] (Eager.replaceNodes f (kept.map .ok)) (Eager.replaceNodes f items) :=
    repeats.replaceNodes f (by simp)
  have fewer := replaceNodes_sublist shrinks (replaced.errorFree free)
  obtain ⟨left, leftSublist, same⟩ := List.sublist_map_iff.mp fewer
  rw [same] at replaced
  exact ⟨left, leftSublist.trans sublist, replaced⟩

theorem keepNodes (order : InOrder nodes items) (keep : Node → Bool)
    (free : ErrorFree (Eager.keepNodes keep items)) :
    InOrder nodes (Eager.keepNodes keep items) := by
  rw [keepNodes_eq_replaceNodes] at free ⊢
  apply order.replaceNodes _ free
  intro node _
  split
  · exact .refl _
  · exact List.nil_sublist _

theorem testNodes (order : InOrder nodes items) (test : Node → Except PredicateError Bool)
    (free : ErrorFree (Eager.testNodes test items)) :
    InOrder nodes (Eager.testNodes test items) := by
  apply order.replaceNodes _ free
  intro node passes
  split at passes
  · exact .refl _
  · exact List.nil_sublist _
  · exact absurd passes not_errorFree_error_cons

/-- A blank leaves items in order that are below the root of a walk without an error. -/
theorem walks (order : InOrder nodes items) (listing : provider.Listing row nodes)
    (free : ∀ node ∈ row, ErrorFree (walk provider limit node)) :
    InOrder nodes (Eager.replaceNodes (walk provider limit) items) := by
  obtain ⟨kept, sublist, repeats⟩ := order
  obtain ⟨left, leftSublist, leftRepeats⟩ := inOrder_walks listing free sublist
  exact ⟨left, leftSublist, leftRepeats.trans (repeats.replaceNodes _ (by simp))⟩

end InOrder

end Eager

/-! ## Rows of steps -/

/-- A test of single nodes, or a blank. -/
def Operation.isSearch : Operation → Bool
  | .any | .tag _ | .class _ | .id _ | .predicate _ | .combinator .descendant => true
  | .pseudo _ | .function _ _ | .combinator _ => false

theorem Operation.isPlain_of_isSearch {operation : Operation}
    (search : operation.isSearch = true) : operation.isPlain = true := by
  cases operation with
  | combinator link =>
      cases link with
      | descendant => rfl
      | _ => cases search
  | pseudo name => cases search
  | function name args => cases search
  | _ => rfl

namespace Eager

variable {model : NodeModel Node Key} {provider : Provider Node} {nesting limit : Nat}
variable {root : Node} {nodes : List Node} {items found : List (Item Node)}

theorem InOrder.step {operation : Operation} (search : operation.isSearch = true)
    (listing : provider.Listing [root] nodes) (freeRoot : ErrorFree (walk provider limit root))
    (order : InOrder nodes items)
    (made : Eager.step model provider limit items (.ofOperation nesting operation) = .ok found)
    (free : ErrorFree found) : InOrder nodes found := by
  cases operation with
  | any =>
      cases made
      exact order
  | tag name =>
      cases made
      exact order.keepNodes _ free
  | «class» name =>
      cases made
      exact order.keepNodes _ free
  | id name =>
      cases made
      exact order.keepNodes _ free
  | predicate body =>
      cases made
      exact order.testNodes _ free
  | pseudo name => cases search
  | function name args => cases search
  | combinator link =>
      cases link with
      | descendant =>
          cases made
          exact order.walks listing (by simpa using freeRoot)
      | _ => cases search

/-- The items stay in order along a row of tests and blanks, if it ends without an error. -/
theorem InOrder.steps {operations : List Operation}
    (search : ∀ operation ∈ operations, operation.isSearch = true)
    (listing : provider.Listing [root] nodes) (freeRoot : ErrorFree (walk provider limit root))
    (order : InOrder nodes items)
    (made : (operations.map (Step.ofOperation nesting)).foldlM (Eager.step model provider limit)
      items = .ok found)
    (free : ErrorFree found) : InOrder nodes found := by
  induction operations generalizing items with
  | nil =>
      cases made
      exact order
  | cons operation operations ih =>
      obtain ⟨head, tail⟩ := List.forall_mem_cons.mp search
      obtain ⟨next, first, behind⟩ := foldlM_cons_eq_ok.mp made
      have plain : ∀ operation ∈ operations, operation.isPlain = true :=
        fun operation member => Operation.isPlain_of_isSearch (tail operation member)
      have freeNext := (foldlM_step_spec plain behind free).1
      exact ih tail (order.step head listing freeRoot first freeNext) behind

end Eager

/-! ## Answers -/

section

variable {model : NodeModel Node Key} {provider : Provider Node} {nesting : Nat}

/-- A row of steps leads downwards only. -/
theorem Steps.Match.reaches {node last : Node} {further : List (Combinator × List Operation)}
    (found : Steps.Match model provider nesting node further last) :
    provider.Reaches node last := by
  induction found with
  | done node => exact .refl
  | @step _ _ _ link _ _ leads _ _ ih =>
      cases link with
      | descendant => exact leads.trans ih
      | child => exact ih.head leads
      | sibling => cases leads
      | adjacent => cases leads

theorem Group.Selects.mem {group : Group} {root node : Node} {nodes : List Node}
    (selects : group.Selects model provider nesting root node)
    (listing : provider.Listing [root] nodes) : node ∈ nodes :=
  listing.mem_iff.mpr ⟨root, List.mem_cons_self, selects.reaches⟩

/-- Where no two keys are the same, neither are two nodes of the same key. -/
theorem eq_of_key_beq [BEq Key] [PartialEquivBEq Key] {nodes : List Node} {node other : Node}
    (distinct : nodes.Pairwise fun node other => (model.key node == model.key other) = false)
    (member : node ∈ nodes) (otherMember : other ∈ nodes)
    (same : (model.key node == model.key other) = true) : node = other := by
  by_contra differ
  have symmetric : Std.Symm fun node other => (model.key node == model.key other) = false :=
    ⟨fun _ _ apart => BEq.comm.trans apart⟩
  have apart := distinct.forall member otherMember differ
  simp only [same, reduceCtorEq] at apart

end

section

variable [BEq Key] [Hashable Key] [EquivBEq Key] [LawfulHashable Key]

/-- What is gathered from items in order is in order. -/
theorem Eager.InOrder.sublist_of_run {model : NodeModel Node Key} {provider : Provider Node}
    {registry : Registry Node} {limits : Limits} {program : Program}
    {plan : List (List (Stage Node))} {roots nodes result : List Node}
    (order : InOrder nodes (allItems model ⟨provider, limits⟩ plan roots))
    (resolved : program.resolve registry = .ok plan)
    (answered : program.run model provider registry limits roots = .ok result) :
    result.Sublist nodes := by
  obtain ⟨kept, sublist, repeats⟩ := order
  have errorless : firstError? (kept.map (Except.ok : Node → Item Node)) = none := by
    simp [firstError?]
  rw [run_eq_foldlM resolved, ResultSet.foldlM_addItem_of_repeats repeats _ (by simp),
    ResultSet.foldlM_addItem, errorless] at answered
  cases answered
  have added : (kept.map (Except.ok : Node → Item Node)).filterMap Except.toOption = kept := by
    rw [List.filterMap_map]
    exact List.filterMap_some
  rw [added, ResultSet.toList_insertAll]
  exact ((firstOfEach_sublist model.key _).trans List.filter_sublist).trans sublist

/-- If a group has only tests and blanks and its query has an answer below a single root, then the
whole listing below the root is finite, and the answer is a part of it, in its order.  Keys need not
differ for that; if they do, as in a tree, then the part has just the nodes that the group
selects. -/
theorem answers_in_document_order (model : NodeModel Node Key) (provider : Provider Node)
    (registry : Registry Node) (limits : Limits) (source : String) (nesting : Nat) (group : Group)
    (search : ∀ operation ∈ group.operations, operation.isSearch = true) {root : Node}
    {result : List Node}
    (answered : (Program.ofSelector source ⟨[group]⟩ nesting).run model provider registry limits
      [root] = .ok result) :
    (∃ nodes, provider.Listing [root] nodes) ∧
      ∀ nodes, provider.Listing [root] nodes → result.Sublist nodes ∧
        (nodes.Pairwise (fun node other => (model.key node == model.key other) = false) →
          ∀ node, node ∈ result ↔ group.Selects model provider nesting root node) := by
  have plain : ∀ operation ∈ group.operations, operation.isPlain = true :=
    fun operation member => Operation.isPlain_of_isSearch (search operation member)
  obtain ⟨plan, resolved, succeed, keys⟩ := Program.run_spec answered
  obtain ⟨stages, rfl, names⟩ : ∃ stages, plan = [stages] ∧
      (group.operations.map (Step.ofOperation nesting)).mapM (Step.resolve registry) =
        .ok stages := by
    cases forall₂_of_mapM_eq_ok resolved with
    | cons names none =>
        cases none
        exact ⟨_, rfl, names⟩
  have succeeds := succeed root List.mem_cons_self stages List.mem_cons_self
  have selected : ∀ key, (∃ kept ∈ result, (model.key kept == key) = true) ↔
      ∃ other, group.Selects model provider nesting root other ∧
        (model.key other == key) = true := by
    intro key
    simp [keys, Group.yields_iff_selects plain names succeeds]
  obtain ⟨candidates, setUp, free⟩ := succeeds
  have made := Group.eager_of_candidates plain names setUp
  have freeRoot := (Eager.foldlM_step_spec plain made free).1
  refine ⟨Eager.exists_listing_of_walk freeRoot, ?_⟩
  intro nodes listing
  have start : Eager.InOrder nodes (Eager.walk provider limits.maxDepth root) := by
    rw [Eager.walk_eq_map_of_listing listing freeRoot]
    exact ⟨nodes, .refl nodes, .refl _ _⟩
  have order := start.steps search listing freeRoot made free
  have items : allItems model ⟨provider, limits⟩ [stages] [root] = candidates.toList := by
    simp [allItems, groupItems, setUp]
  rw [← items] at order
  have sublist := order.sublist_of_run resolved answered
  refine ⟨sublist, ?_⟩
  intro distinct node
  constructor
  · intro member
    obtain ⟨other, selects, same⟩ := (selected (model.key node)).mp ⟨node, member, BEq.rfl⟩
    have equal := eq_of_key_beq distinct (selects.mem listing) (sublist.subset member) same
    exact equal ▸ selects
  · intro selects
    obtain ⟨kept, member, same⟩ := (selected (model.key node)).mpr ⟨node, selects, BEq.rfl⟩
    have equal := eq_of_key_beq distinct (sublist.subset member) (selects.mem listing) same
    exact equal ▸ member

end

/-- Below the nodes of the first step, the second one finds 1, 3, 5, 4 and then 3, 5 and 5 again. -/
theorem answers_in_document_order_below_nested_tags :
    let nested : NodeModel Nat Nat := {
      key := id
      tag := fun node => if node % 2 = 1 then some "odd" else some "even"
      children := fun
        | 0 => some [1, 2]
        | 1 => some [3, 4]
        | 3 => some [5]
        | _ => none }
    let group : Group := ⟨[.tag "odd", .combinator .descendant, .any]⟩
    (Program.ofSelector "odd *" ⟨[group]⟩ 1).run nested nested.hooks .empty ⟨3, 1⟩ [0] =
        .ok [1, 3, 5, 4] ∧
      nested.hooks.Listing [0] [0, 1, 3, 5, 4, 2] ∧
      [1, 3, 5, 4].Sublist [0, 1, 3, 5, 4, 2] ∧
      group.Selects nested nested.hooks 1 0 4 ∧ ¬ group.Selects nested nested.hooks 1 0 2 := by
  intro nested group
  have answered : (Program.ofSelector "odd *" ⟨[group]⟩ 1).run nested nested.hooks .empty ⟨3, 1⟩
      [0] = .ok [1, 3, 5, 4] := by
    rw [run_of_resolved rfl]
    rfl
  have search : ∀ operation ∈ group.operations, operation.isSearch = true := by decide
  have listing : nested.hooks.Listing [0] [0, 1, 3, 5, 4, 2] :=
    Eager.listing_of_walk (show Eager.walk nested.hooks 3 0 = _ from rfl)
  have distinct : [0, 1, 3, 5, 4, 2].Pairwise fun node other =>
      (nested.key node == nested.key other) = false := by decide
  have ordered := (answers_in_document_order nested nested.hooks .empty ⟨3, 1⟩ "odd *" 1 group
    search answered).2 _ listing
  have selected := ordered.2 distinct
  exact ⟨answered, listing, ordered.1, (selected 4).mp (by decide),
    fun selects => absurd ((selected 2).mpr selects) (by decide)⟩

end NodeQuery
