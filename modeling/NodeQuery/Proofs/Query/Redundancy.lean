import NodeQuery.Proofs.Query.Matching
import NodeQuery.Proofs.Query.Naming

/-!
# Steps that change nothing

A step `*` between two blanks, or in front of the first blank, walks again from every node of a
walk.  Below a walk without an error this finds only nodes of the walk itself, and behind an error
nothing counts.  So the items of the group become more, but each further one repeats an earlier
node, and this stays so whatever tests and combinators follow.  The answer does not change.
-/

namespace NodeQuery

variable {Node Key : Type}

/-- The operation is a transform of all candidates, not of each one by itself. -/
def Operation.isTransform : Operation → Bool
  | .pseudo _ | .function _ _ => true
  | _ => false

/-- The second row is the first one with one more universal step, in front of the row or behind a
blank, that ends with a blank. -/
inductive Operation.PadsOnce : List Operation → List Operation → Prop where
  | front (operations : List Operation) :
      PadsOnce operations (.any :: .combinator .descendant :: operations)
  | inner (front behind : List Operation) :
      PadsOnce (front ++ .combinator .descendant :: behind)
        (front ++ .combinator .descendant :: .any :: .combinator .descendant :: behind)

/-- The second row is the first one with universal steps put in, any number of times. -/
def Operation.Pads : List Operation → List Operation → Prop :=
  Relation.ReflTransGen Operation.PadsOnce

namespace Eager

/-! ## Lists with repetitions -/

/-- The second list is the first one with nodes put in that occur in front of them; `seen` occur in
front of both lists.  Behind the first error, the lists may differ in any way. -/
inductive Repeats : (seen : List Node) → List (Item Node) → List (Item Node) → Prop where
  | nil (seen : List Node) : Repeats seen [] []
  | error (seen : List Node) (error : Error) (left right : List (Item Node)) :
      Repeats seen (.error error :: left) (.error error :: right)
  | node {seen : List Node} {node : Node} {left right : List (Item Node)}
      (behind : Repeats (node :: seen) left right) :
      Repeats seen (.ok node :: left) (.ok node :: right)
  | again {seen : List Node} {node : Node} {left right : List (Item Node)} (member : node ∈ seen)
      (behind : Repeats seen left right) : Repeats seen left (.ok node :: right)

namespace Repeats

variable {seen more : List Node} {left right items : List (Item Node)}

theorem mono (repeats : Repeats seen left right) (subset : seen ⊆ more) :
    Repeats more left right := by
  induction repeats generalizing more with
  | nil => exact .nil more
  | error _ error left right => exact .error more error left right
  | node _ ih => exact .node (ih (List.cons_subset_cons _ subset))
  | again member _ ih => exact .again (subset member) (ih subset)

/-- Equal items in front of both lists.  If there is an error among them, nothing else counts. -/
theorem append_left (behind : ErrorFree items →
      Repeats (items.filterMap Except.toOption ++ seen) left right) :
    Repeats seen (items ++ left) (items ++ right) := by
  induction items generalizing seen with
  | nil => exact behind errorFree_nil
  | cons item items ih =>
      cases item with
      | error error => exact .error seen error _ _
      | ok node =>
          apply Repeats.node
          apply ih
          intro free
          apply (behind (errorFree_ok_cons.mpr free)).mono
          intro other member
          simp only [List.filterMap_cons, Except.toOption, List.cons_append, List.mem_cons,
            List.mem_append] at member ⊢
          exact or_left_comm.mp member

/-- Nodes that occur further in front, put in front of the second list. -/
theorem insert (free : ErrorFree items) (members : ∀ node, .ok node ∈ items → node ∈ seen)
    (behind : Repeats seen left right) : Repeats seen left (items ++ right) := by
  induction items with
  | nil => exact behind
  | cons item items ih =>
      cases item with
      | error error => exact absurd free not_errorFree_error_cons
      | ok node =>
          apply Repeats.again (members node List.mem_cons_self)
          apply ih (errorFree_ok_cons.mp free)
          intro other member
          exact members other (.tail _ member)

/-- Equal items in front of both lists, and behind them, in the second list, some of their nodes
again. -/
theorem append_again {again : List (Item Node)}
    (known : ErrorFree items →
      ErrorFree again ∧ ∀ node, .ok node ∈ again → .ok node ∈ items)
    (behind : ∀ seen, Repeats seen left right) :
    Repeats seen (items ++ left) (items ++ (again ++ right)) := by
  apply append_left
  intro free
  obtain ⟨freeAgain, members⟩ := known free
  apply insert freeAgain
  · intro node member
    exact List.mem_append_left _ (List.mem_filterMap.mpr ⟨_, members node member, rfl⟩)
  · exact behind _

/-- What is made of a node that occurs further in front has been made there as well. -/
theorem replaceNodes (f : Node → List (Item Node)) (repeats : Repeats seen left right)
    (made : ∀ node ∈ seen, ErrorFree (f node) ∧ ∀ next, .ok next ∈ f node → next ∈ more) :
    Repeats more (Eager.replaceNodes f left) (Eager.replaceNodes f right) := by
  induction repeats generalizing more with
  | nil => exact .nil more
  | error => exact .error more _ _ _
  | @node seen node left right _ ih =>
      apply append_left
      intro free
      apply ih
      intro other member
      have occurs : ∀ next, .ok next ∈ f node → next ∈ (f node).filterMap Except.toOption :=
        fun next member => List.mem_filterMap.mpr ⟨_, member, rfl⟩
      cases List.mem_cons.mp member with
      | inl same =>
          subst same
          exact ⟨free, fun next member => List.mem_append_left _ (occurs next member)⟩
      | inr earlier =>
          obtain ⟨free', known⟩ := made other earlier
          exact ⟨free', fun next member => List.mem_append_right _ (known next member)⟩
  | again member _ ih =>
      obtain ⟨free, known⟩ := made _ member
      exact .insert free known (ih made)

end Repeats

/-! ## Walks of walks -/

variable {provider : Provider Node} {limit : Nat}

/-- Below a node whose walk is not cut, no walk is cut: a path that is long enough below would be
long enough above. -/
theorem errorFree_walk_of_reaches {node target : Node}
    (free : ErrorFree (walk provider limit node)) (path : provider.Reaches node target) :
    ErrorFree (walk provider limit target) := by
  rw [errorFree_walk_iff] at free ⊢
  intro deep
  exact free (deep.of_reaches path)

theorem walk_eq_cons (provider : Provider Node) (limit : Nat) (node : Node) :
    walk provider limit node = [.error (.query (.depthLimitExceeded limit))] ∨
      ∃ below, walk provider limit node = .ok node :: below := by
  cases limit with
  | zero =>
      by_cases leaf : provider.childList node = []
      · right
        exact ⟨[], by simp [walk, preorder, untilError, leaf]⟩
      · left
        simp [walk, preorder, untilError, leaf]
  | succ limit =>
      right
      exact ⟨_, rfl⟩

/-- The walks of a walk's nodes begin with the walk itself and go on with nodes of it, unless there
is an error in it. -/
theorem replaceNodes_walk_walk (provider : Provider Node) (limit : Nat) (node : Node) :
    ∃ extra, replaceNodes (walk provider limit) (walk provider limit node) =
        walk provider limit node ++ extra ∧
      (ErrorFree (walk provider limit node) → ErrorFree extra ∧
        ∀ next, .ok next ∈ extra → .ok next ∈ walk provider limit node) := by
  cases walk_eq_cons provider limit node with
  | inl cut =>
      rw [cut]
      exact ⟨[], rfl, fun free => absurd free not_errorFree_error_cons⟩
  | inr listed =>
      obtain ⟨below, listed⟩ := listed
      refine ⟨replaceNodes (walk provider limit) below, ?_, ?_⟩
      · conv_lhs => rw [listed]
        rfl
      · intro free
        have reached : ∀ next, .ok next ∈ below → provider.Reaches node next := by
          intro next member
          apply (mem_walk_iff free).mp
          rw [listed]
          exact .tail _ member
        constructor
        · apply errorFree_replaceNodes.mpr
          constructor
          · rw [listed] at free
            exact errorFree_ok_cons.mp free
          · intro next member
            exact errorFree_walk_of_reaches free (reached next member)
        · intro next member
          obtain ⟨before, among, found⟩ := mem_replaceNodes.mp member
          have freeBelow := errorFree_walk_of_reaches free (reached before among)
          exact (mem_walk_iff free).mpr
            ((reached before among).trans ((mem_walk_iff freeBelow).mp found))

/-- Walking again repeats only what has been found. -/
theorem repeats_walk (items : List (Item Node)) (seen : List Node) :
    Repeats seen (replaceNodes (walk provider limit) items)
      (replaceNodes (walk provider limit) (replaceNodes (walk provider limit) items)) := by
  induction items generalizing seen with
  | nil => exact .nil seen
  | cons item items ih =>
      cases item with
      | error error => exact .error seen error _ _
      | ok node =>
          obtain ⟨extra, shape, known⟩ := replaceNodes_walk_walk provider limit node
          have again : replaceNodes (walk provider limit)
              (replaceNodes (walk provider limit) (.ok node :: items)) =
                walk provider limit node ++ (extra ++ replaceNodes (walk provider limit)
                  (replaceNodes (walk provider limit) items)) := by
            rw [← List.append_assoc, ← shape]
            simp [replaceNodes]
          rw [again]
          exact .append_again known ih

/-! ## Rows of plain steps -/

theorem replaceNodes_replaceNodes (f g : Node → List (Item Node)) (items : List (Item Node)) :
    replaceNodes g (replaceNodes f items) =
      replaceNodes (fun node => replaceNodes g (f node)) items := by
  rw [replaceNodes, replaceNodes, List.flatMap_assoc]
  apply congrArg (items.flatMap ·)
  funext item
  cases item with
  | ok node => rfl
  | error error => rfl

theorem keepNodes_eq_replaceNodes (keep : Node → Bool) (items : List (Item Node)) :
    keepNodes keep items =
      replaceNodes (fun node => if keep node then [.ok node] else []) items := by
  induction items with
  | nil => rfl
  | cons item items ih =>
      cases item with
      | error error => exact congrArg (.error error :: ·) ih
      | ok node =>
          have first : replaceNodes (fun node => if keep node then [.ok node] else [])
              (.ok node :: items) = (if keep node then [.ok node] else []) ++
                replaceNodes (fun node => if keep node then [.ok node] else []) items := rfl
          rw [first, ← ih]
          cases kept : keep node with
          | true => exact List.filter_cons_of_pos kept
          | false => exact List.filter_cons_of_neg (by simp [kept])

theorem replaceNodes_ok (items : List (Item Node)) :
    replaceNodes (fun node => [.ok node]) items = items := by
  rw [replaceNodes]
  conv_rhs => rw [← List.flatMap_singleton' items]
  apply congrArg (items.flatMap ·)
  funext item
  cases item <;> rfl

/-- A plain step replaces each node by itself. -/
theorem step_eq_replaceNodes (model : NodeModel Node Key) (provider : Provider Node)
    (maxDepth nesting : Nat) {operation : Operation} (plain : operation.isPlain = true) :
    ∃ f, ∀ items, step model provider maxDepth items (.ofOperation nesting operation) =
      .ok (replaceNodes f items) := by
  cases operation with
  | any => exact ⟨_, fun items => congrArg Except.ok (replaceNodes_ok items).symm⟩
  | tag name => exact ⟨_, fun items => congrArg Except.ok (keepNodes_eq_replaceNodes _ items)⟩
  | «class» name => exact ⟨_, fun items => congrArg Except.ok (keepNodes_eq_replaceNodes _ items)⟩
  | id name => exact ⟨_, fun items => congrArg Except.ok (keepNodes_eq_replaceNodes _ items)⟩
  | predicate body => exact ⟨_, fun items => rfl⟩
  | combinator link =>
      cases link with
      | descendant => exact ⟨_, fun items => rfl⟩
      | child => exact ⟨_, fun items => rfl⟩
      | sibling => cases plain
      | adjacent => cases plain
  | pseudo name => cases plain
  | function name args => cases plain

/-- So does a row of plain steps. -/
theorem steps_eq_replaceNodes (model : NodeModel Node Key) (provider : Provider Node)
    (maxDepth nesting : Nat) {operations : List Operation}
    (plain : ∀ operation ∈ operations, operation.isPlain = true) :
    ∃ f, ∀ items, (operations.map (Step.ofOperation nesting)).foldlM (step model provider maxDepth)
      items = .ok (replaceNodes f items) := by
  induction operations with
  | nil => exact ⟨_, fun items => congrArg Except.ok (replaceNodes_ok items).symm⟩
  | cons operation operations ih =>
      obtain ⟨head, tail⟩ := List.forall_mem_cons.mp plain
      obtain ⟨f, first⟩ := step_eq_replaceNodes model provider maxDepth nesting head
      obtain ⟨g, behind⟩ := ih tail
      refine ⟨fun node => replaceNodes g (f node), ?_⟩
      intro items
      rw [List.map_cons, List.foldlM_cons, first, ← replaceNodes_replaceNodes]
      exact behind (replaceNodes f items)

/-- With one more universal step, the items of a group of plain steps repeat nodes. -/
theorem repeats_group (model : NodeModel Node Key) (provider : Provider Node)
    (maxDepth nesting : Nat) {operations padded : List Operation}
    (plain : ∀ operation ∈ operations, operation.isPlain = true)
    (pads : Operation.PadsOnce operations padded) (root : Node) :
    Repeats []
      (outcomeItems
        (group model provider maxDepth (operations.map (Step.ofOperation nesting)) root))
      (outcomeItems
        (group model provider maxDepth (padded.map (Step.ofOperation nesting)) root)) := by
  cases pads with
  | front =>
      obtain ⟨f, row⟩ := steps_eq_replaceNodes model provider maxDepth nesting plain
      have once : walk provider maxDepth root =
          replaceNodes (walk provider maxDepth) [.ok root] := by simp [replaceNodes]
      have longer : group model provider maxDepth
          ((.any :: .combinator .descendant :: operations).map (Step.ofOperation nesting)) root =
            .ok (replaceNodes f (replaceNodes (walk provider maxDepth)
              (walk provider maxDepth root))) := row _
      rw [longer, group, row]
      simp only [outcomeItems]
      rw [once]
      exact (repeats_walk [.ok root] []).replaceNodes f (by simp)
  | inner front behind =>
      obtain ⟨plainFront, plainBehind⟩ := List.forall_mem_append.mp plain
      obtain ⟨f, first⟩ := steps_eq_replaceNodes model provider maxDepth nesting plainFront
      obtain ⟨g, row⟩ := steps_eq_replaceNodes model provider maxDepth nesting
        (List.forall_mem_cons.mp plainBehind).2
      let reached := replaceNodes f (walk provider maxDepth root)
      let walked := replaceNodes (walk provider maxDepth) reached
      have shorter : group model provider maxDepth
          ((front ++ .combinator .descendant :: behind).map (Step.ofOperation nesting)) root =
            .ok (replaceNodes g walked) := by
        rw [group, List.map_append, List.foldlM_append, first]
        exact row walked
      have longer : group model provider maxDepth
          ((front ++ .combinator .descendant :: .any :: .combinator .descendant :: behind).map
            (Step.ofOperation nesting)) root =
            .ok (replaceNodes g (replaceNodes (walk provider maxDepth) walked)) := by
        rw [group, List.map_append, List.foldlM_append, first]
        exact row (replaceNodes (walk provider maxDepth) walked)
      rw [shorter, longer]
      exact (repeats_walk reached []).replaceNodes g (by simp)

end Eager

namespace ResultSet

/-! ## Adding repetitions -/

variable [BEq Key] [Hashable Key] [EquivBEq Key] [LawfulHashable Key]
variable {model : NodeModel Node Key}

theorem seen_insert (results : ResultSet Node Key) (key other : Key) (node : Node) :
    (results.insert key node).seen.contains other =
      (key == other || results.seen.contains other) := by
  unfold insert
  split
  case isFalse => exact Std.HashSet.contains_insert
  case isTrue present =>
      cases same : key == other with
      | false => simp
      | true => simpa [same] using (Std.HashSet.contains_congr same).symm.trans present

/-- Repeated nodes are no new results. -/
theorem foldlM_addItem_of_repeats {seen : List Node} {left right : List (Item Node)}
    (repeats : Eager.Repeats seen left right) (results : ResultSet Node Key)
    (present : ∀ node ∈ seen, results.seen.contains (model.key node) = true) :
    right.foldlM (addItem model) results = left.foldlM (addItem model) results := by
  induction repeats generalizing results with
  | nil => rfl
  | error => rfl
  | @node seen node left right _ ih =>
      apply ih (results.insert (model.key node) node)
      intro other member
      rw [seen_insert, Bool.or_eq_true]
      cases List.mem_cons.mp member with
      | inl same =>
          left
          exact same ▸ BEq.rfl
      | inr earlier =>
          right
          exact present other earlier
  | @again seen node left right member _ ih =>
      have unchanged : results.insert (model.key node) node = results :=
        if_pos (present node member)
      rw [List.foldlM_cons, addItem, unchanged]
      exact ih results present

end ResultSet

/-! ## Queries -/

section

variable {registry : Registry Node} {nesting : Nat}

/-- The items of a group of plain steps do not depend on the registry. -/
theorem groupItems_of_plain {model : NodeModel Node Key} {operations : List Operation}
    {stages : List (Stage Node)} (plain : ∀ operation ∈ operations, operation.isPlain = true)
    (resolved : (operations.map (Step.ofOperation nesting)).mapM (Step.resolve registry) =
      .ok stages)
    (context : Context Node) (root : Node) :
    groupItems model context stages root =
      Eager.outcomeItems (Eager.group model context.provider context.limits.maxDepth
        (operations.map (Step.ofOperation nesting)) root) :=
  groupItems_eq (Step.resolve_plain_row plain resolved) context root

namespace Operation

/-- What is no transform and can be resolved is plain. -/
theorem isPlain_of_fault? {operation : Operation} (single : operation.isTransform = false)
    (faultless : operation.fault? registry = none) : operation.isPlain = true := by
  cases operation with
  | pseudo name => cases single
  | function name args => cases single
  | combinator link =>
      cases link with
      | sibling => cases faultless
      | adjacent => cases faultless
      | _ => rfl
  | _ => rfl

variable {operations padded : List Operation}

theorem PadsOnce.mem (pads : PadsOnce operations padded) {operation : Operation}
    (member : operation ∈ padded) :
    operation ∈ operations ∨ operation = .any ∨ operation = .combinator .descendant := by
  cases pads with
  | front =>
      simp only [List.mem_cons] at member
      tauto
  | inner front behind =>
      simp only [List.mem_append, List.mem_cons] at member ⊢
      tauto

theorem PadsOnce.fault? (pads : PadsOnce operations padded) :
    padded.findSome? (Operation.fault? registry) =
      operations.findSome? (Operation.fault? registry) := by
  cases pads with
  | front => rfl
  | inner front behind =>
      rw [List.findSome?_append, List.findSome?_append]
      rfl

end Operation

/-- The stages of a group. -/
def Group.stages (registry : Registry Node) (nesting : Nat) (group : Group) :
    Except QueryError (List (Stage Node)) :=
  (group.operations.map (Step.ofOperation nesting)).mapM (Step.resolve registry)

theorem Group.stages_eq_error (group : Group) {fault : QueryError} :
    group.stages registry nesting = .error fault ↔
      group.operations.findSome? (Operation.fault? registry) = some fault :=
  Step.resolve_row_eq_error

/-- Resolving a program, one of its groups by itself. -/
theorem Program.resolve_around (source : String) (before behind : List Group) (group : Group) :
    (Program.ofSelector source ⟨before ++ group :: behind⟩ nesting).resolve registry = (do
      let front ← (Program.ofSelector source ⟨before⟩ nesting).resolve registry
      let stages ← group.stages registry nesting
      let back ← (Program.ofSelector source ⟨behind⟩ nesting).resolve registry
      .ok (front ++ stages :: back)) := by
  simp only [Program.resolve, Program.ofSelector, List.map_append, List.map_cons, List.mapM_append,
    List.mapM_cons, bind_assoc, pure_bind]
  rfl

end

/-- The groups are refused alike, or both are resolved and add the same to all results. -/
inductive Group.Interchangeable [BEq Key] [Hashable Key] (model : NodeModel Node Key)
    (registry : Registry Node) (context : Context Node) (nesting : Nat) (group other : Group) :
    Prop where
  | refused {fault : QueryError} (first : group.stages registry nesting = .error fault)
      (second : other.stages registry nesting = .error fault)
  | resolved {stages stages' : List (Stage Node)}
      (first : group.stages registry nesting = .ok stages)
      (second : other.stages registry nesting = .ok stages')
      (adds : ∀ (results : ResultSet Node Key) (root : Node),
        results.addGroup model context root stages' = results.addGroup model context root stages)

section

variable [BEq Key] [Hashable Key] {model : NodeModel Node Key} {provider : Provider Node}
variable {registry : Registry Node} {limits : Limits} {nesting : Nat}

/-- Adds the results of a row of groups below one root. -/
def ResultSet.addRow (model : NodeModel Node Key) (context : Context Node)
    (row : List (List (Stage Node))) (results : ResultSet Node Key) (root : Node) :
    Except Error (ResultSet Node Key) :=
  row.foldlM (fun results stages => results.addGroup model context root stages) results

/-- One of two interchangeable groups can stand in the other's place. -/
theorem Group.Interchangeable.run_eq {group other : Group}
    (same : Group.Interchangeable model registry ⟨provider, limits⟩ nesting group other)
    (source : String) (before behind : List Group) (roots : List Node) :
    (Program.ofSelector source ⟨before ++ other :: behind⟩ nesting).run model provider registry
        limits roots =
      (Program.ofSelector source ⟨before ++ group :: behind⟩ nesting).run model provider registry
        limits roots := by
  rw [Program.run, Program.run, Program.resolve_around, Program.resolve_around]
  cases (Program.ofSelector source ⟨before⟩ nesting).resolve registry with
  | error fault => rfl
  | ok front =>
      cases same with
      | refused first second => rw [first, second]
      | @resolved stages stages' first second adds =>
          rw [first, second]
          cases (Program.ofSelector source ⟨behind⟩ nesting).resolve registry with
          | error fault => rfl
          | ok back =>
              have rows : ResultSet.addRow model ⟨provider, limits⟩ (front ++ stages' :: back) =
                  ResultSet.addRow model ⟨provider, limits⟩ (front ++ stages :: back) := by
                funext results root
                simp only [ResultSet.addRow, List.foldlM_append, List.foldlM_cons, adds]
              exact congrArg (fun add => roots.foldlM add ResultSet.empty >>= fun results =>
                Except.ok results.toList) rows

variable [EquivBEq Key] [LawfulHashable Key]

/-- A group with one more universal step can stand in the group's place. -/
theorem Operation.PadsOnce.interchangeable {operations padded : List Operation}
    (pads : PadsOnce operations padded)
    (single : ∀ operation ∈ operations, operation.isTransform = false) :
    Group.Interchangeable model registry ⟨provider, limits⟩ nesting ⟨operations⟩ ⟨padded⟩ := by
  cases first : (⟨operations⟩ : Group).stages registry nesting with
  | error fault =>
      apply Group.Interchangeable.refused first
      rw [Group.stages_eq_error] at first ⊢
      rw [pads.fault?]
      exact first
  | ok stages =>
      have faultless : operations.findSome? (Operation.fault? registry) = none := by
        cases found : operations.findSome? (Operation.fault? registry) with
        | none => rfl
        | some fault =>
            rw [(Group.stages_eq_error ⟨operations⟩).mpr found] at first
            cases first
      have plain : ∀ operation ∈ operations, operation.isPlain = true :=
        fun operation member => Operation.isPlain_of_fault? (single operation member)
          (List.findSome?_eq_none_iff.mp faultless operation member)
      have plain' : ∀ operation ∈ padded, operation.isPlain = true := by
        intro operation member
        obtain old | rfl | rfl := pads.mem member
        · exact plain operation old
        · rfl
        · rfl
      cases second : (⟨padded⟩ : Group).stages registry nesting with
      | error fault =>
          rw [Group.stages_eq_error, pads.fault?, faultless] at second
          cases second
      | ok stages' =>
          apply Group.Interchangeable.resolved first second
          intro results root
          rw [ResultSet.addGroup_eq_foldlM, ResultSet.addGroup_eq_foldlM,
            groupItems_of_plain plain first, groupItems_of_plain plain' second]
          apply ResultSet.foldlM_addItem_of_repeats
            (Eager.repeats_group model provider limits.maxDepth nesting plain pads root)
          intro node member
          cases member

/-- Universal steps between two blanks, or in front of the first one, do not change what a query
answers, neither its nodes nor their order nor its error. -/
theorem universal_steps_are_redundant (model : NodeModel Node Key) (provider : Provider Node)
    (registry : Registry Node) (limits : Limits) (nesting : Nat)
    {operations padded : List Operation}
    (single : ∀ operation ∈ operations, operation.isTransform = false)
    (pads : Operation.Pads operations padded) (source source' : String)
    (before behind : List Group) (roots : List Node) :
    (Program.ofSelector source' ⟨before ++ ⟨padded⟩ :: behind⟩ nesting).run model provider registry
        limits roots =
      (Program.ofSelector source ⟨before ++ ⟨operations⟩ :: behind⟩ nesting).run model provider
        registry limits roots := by
  -- The text that was compiled is not looked at when the program runs.
  have unnamed (groups : List Group) :
      (Program.ofSelector source' ⟨groups⟩ nesting).run model provider registry limits roots =
        (Program.ofSelector source ⟨groups⟩ nesting).run model provider registry limits roots :=
    rfl
  rw [unnamed]
  suffices also : (∀ operation ∈ padded, operation.isTransform = false) ∧
      (Program.ofSelector source ⟨before ++ ⟨padded⟩ :: behind⟩ nesting).run model provider registry
          limits roots =
        (Program.ofSelector source ⟨before ++ ⟨operations⟩ :: behind⟩ nesting).run model provider
          registry limits roots from also.2
  induction pads with
  | refl => exact ⟨single, rfl⟩
  | @tail middle padded _ once ih =>
      obtain ⟨single', same⟩ := ih
      constructor
      · intro operation member
        obtain old | rfl | rfl := once.mem member
        · exact single' operation old
        · rfl
        · rfl
      · rw [(once.interchangeable single').run_eq source before behind roots]
        exact same

end

/-- `* a * b` finds what `a b` finds, below a node that is itself an `a`, and both fail alike where
a walk is cut. -/
theorem universal_steps_are_redundant_below_nested_tags :
    let nested : NodeModel Nat Nat := {
      key := id
      tag := fun
        | 0 | 1 => some "a"
        | _ => some "b"
      children := fun
        | 0 => some [1, 2]
        | 1 => some [3]
        | _ => none }
    let row : List Operation := [.tag "a", .combinator .descendant, .tag "b"]
    let padded : List Operation := .any :: .combinator .descendant :: .tag "a" ::
      .combinator .descendant :: .any :: .combinator .descendant :: [.tag "b"]
    let short := Program.ofSelector "a b" ⟨[⟨row⟩]⟩ 1
    let long := Program.ofSelector "* a * b" ⟨[⟨padded⟩]⟩ 1
    short.run nested nested.hooks .empty ⟨2, 1⟩ [0] = .ok [3, 2] ∧
      long.run nested nested.hooks .empty ⟨2, 1⟩ [0] = .ok [3, 2] ∧
      short.run nested nested.hooks .empty ⟨1, 1⟩ [0] = .error (.query (.depthLimitExceeded 1)) ∧
      long.run nested nested.hooks .empty ⟨1, 1⟩ [0] = .error (.query (.depthLimitExceeded 1)) := by
  intro nested row padded short long
  have found : short.run nested nested.hooks .empty ⟨2, 1⟩ [0] = .ok [3, 2] := by
    rw [run_of_resolved rfl]
    rfl
  have cut : short.run nested nested.hooks .empty ⟨1, 1⟩ [0] =
      .error (.query (.depthLimitExceeded 1)) := by rfl
  have single : ∀ operation ∈ row, operation.isTransform = false := by decide
  have pads : Operation.Pads row padded :=
    (Relation.ReflTransGen.single (.inner [.tag "a"] [.tag "b"])).tail (.front _)
  have same := fun limits => universal_steps_are_redundant nested nested.hooks .empty limits 1
    single pads "a b" "* a * b" [] [] [0]
  exact ⟨found, (same ⟨2, 1⟩).trans found, cut, (same ⟨1, 1⟩).trans cut⟩

end NodeQuery
