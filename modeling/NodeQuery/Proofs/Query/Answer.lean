import NodeQuery.Query.Execution
import NodeQuery.Proofs.Outcome
import NodeQuery.Proofs.Query.Walk

/-!
# Answers

What can be said of a query that has an answer: every item that any group yielded below any root
was a node, and the answer has a node of each key that was among them, and of no other key.
-/

namespace NodeQuery

variable {Node Key : Type}

namespace ResultSet

variable [BEq Key] [Hashable Key]

/-- The results have a node of the given key. -/
def HasKey (model : NodeModel Node Key) (results : ResultSet Node Key) (key : Key) : Prop :=
  ∃ node ∈ results.nodes, model.key node == key

/-- The keys that count as seen are those of the nodes. -/
def Consistent (model : NodeModel Node Key) (results : ResultSet Node Key) : Prop :=
  ∀ key, results.seen.contains key = true ↔ results.HasKey model key

variable {model : NodeModel Node Key}

theorem hasKey_cons {seen : Std.HashSet Key} {node : Node} {nodes : List Node} {key : Key} :
    HasKey model ⟨seen, node :: nodes⟩ key ↔
      (model.key node == key) = true ∨ HasKey model ⟨seen, nodes⟩ key := by
  simp [HasKey]

theorem not_hasKey_empty {key : Key} : ¬ (empty : ResultSet Node Key).HasKey model key := by
  rintro ⟨node, member, _⟩
  exact List.not_mem_nil member

variable [EquivBEq Key] [LawfulHashable Key]

omit [EquivBEq Key] [LawfulHashable Key] in
theorem consistent_empty : (empty : ResultSet Node Key).Consistent model := by
  intro key
  rw [iff_false_right not_hasKey_empty]
  simp [empty]

/-- Adding a node keeps the results consistent and adds its key, whether or not it was there. -/
theorem insert_spec {results : ResultSet Node Key} (consistent : results.Consistent model)
    (node : Node) :
    (results.insert (model.key node) node).Consistent model ∧
      ∀ key, (results.insert (model.key node) node).HasKey model key ↔
        results.HasKey model key ∨ (model.key node == key) = true := by
  unfold insert
  split
  case isTrue present =>
      refine ⟨consistent, ?_⟩
      intro key
      refine ⟨.inl, ?_⟩
      rintro (has | same)
      · exact has
      · rw [Std.HashSet.contains_congr same] at present
        exact (consistent key).mp present
  case isFalse absent =>
      constructor
      · intro key
        rw [Std.HashSet.contains_insert, Bool.or_eq_true, consistent key, hasKey_cons]
        rfl
      · intro key
        rw [hasKey_cons, or_comm]
        rfl

/-! ## Adding the items of a group -/

/-- Takes one item of a group. -/
def addItem (model : NodeModel Node Key) (results : ResultSet Node Key) :
    Item Node → Except Error (ResultSet Node Key)
  | .ok node => .ok (results.insert (model.key node) node)
  | .error error => .error error

omit [EquivBEq Key] [LawfulHashable Key] in
theorem addAll_eq_foldlM (results : ResultSet Node Key) (cell : LazyCell (Item Node)) :
    results.addAll model cell = cell.toList.foldlM (addItem model) results := by
  induction cell generalizing results with
  | done => rfl
  | item value rest ih =>
      cases value with
      | error error => rfl
      | ok node => exact ih () _

private theorem addItem_spec {results next : ResultSet Node Key} {item : Item Node}
    (consistent : results.Consistent model) (added : addItem model results item = .ok next) :
    next.Consistent model ∧ (∃ node, item = .ok node) ∧
      ∀ key, next.HasKey model key ↔
        results.HasKey model key ∨ ∃ node, item = .ok node ∧ (model.key node == key) = true := by
  cases item with
  | error error => cases added
  | ok node =>
      cases added
      rcases insert_spec consistent node with ⟨kept, keys⟩
      exact ⟨kept, ⟨node, rfl⟩, fun key => by simp [keys]⟩

/-- If all items could be added, they are nodes, and their keys have been added. -/
theorem addAll_spec {results after : ResultSet Node Key} {cell : LazyCell (Item Node)}
    (consistent : results.Consistent model) (added : results.addAll model cell = .ok after) :
    after.Consistent model ∧ Eager.ErrorFree cell.toList ∧
      ∀ key, after.HasKey model key ↔ results.HasKey model key ∨
        ∃ node, .ok node ∈ cell.toList ∧ (model.key node == key) = true := by
  rw [addAll_eq_foldlM] at added
  rcases foldlM_gathers addItem_spec consistent added with ⟨kept, nodes, keys⟩
  refine ⟨kept, ?_, ?_⟩
  · intro error member
    rcases nodes _ member with ⟨node, isNode⟩
    cases isNode
  · intro key
    rw [keys]
    apply or_congr_right
    constructor
    · rintro ⟨item, member, node, rfl, same⟩
      exact ⟨node, member, same⟩
    · rintro ⟨node, member, same⟩
      exact ⟨_, member, node, rfl, same⟩

end ResultSet

/-! ## Groups and roots -/

section

variable (model : NodeModel Node Key) (context : Context Node) (stages : List (Stage Node))
variable (root : Node)

/-- The group can be set up below the root, and none of its items is an error. -/
def GroupSucceeds : Prop :=
  ∃ candidates, groupCandidates model context stages root = .ok candidates ∧
    Eager.ErrorFree candidates.toList

/-- The node is among the items of the group below the root. -/
def GroupYields (node : Node) : Prop :=
  ∃ candidates, groupCandidates model context stages root = .ok candidates ∧
    .ok node ∈ candidates.toList

end

variable [BEq Key] [Hashable Key] [EquivBEq Key] [LawfulHashable Key]
variable {model : NodeModel Node Key} {context : Context Node}

namespace ResultSet

theorem addGroup_spec {results after : ResultSet Node Key} {root : Node}
    {stages : List (Stage Node)} (consistent : results.Consistent model)
    (added : results.addGroup model context root stages = .ok after) :
    after.Consistent model ∧ GroupSucceeds model context stages root ∧
      ∀ key, after.HasKey model key ↔ results.HasKey model key ∨
        ∃ node, GroupYields model context stages root node ∧ (model.key node == key) = true := by
  rcases bind_eq_ok.mp added with ⟨candidates, setUp, added⟩
  rw [mapError_eq_ok] at setUp
  rcases addAll_spec consistent added with ⟨kept, free, keys⟩
  refine ⟨kept, ⟨candidates, setUp, free⟩, ?_⟩
  intro key
  rw [keys]
  simp [GroupYields, setUp, LazySeq.toList]

/-- All groups of a plan below one root. -/
theorem addGroups_spec {results after : ResultSet Node Key} {plan : List (List (Stage Node))}
    {root : Node} (consistent : results.Consistent model)
    (added : plan.foldlM (fun results stages => results.addGroup model context root stages)
      results = .ok after) :
    after.Consistent model ∧ (∀ stages ∈ plan, GroupSucceeds model context stages root) ∧
      ∀ key, after.HasKey model key ↔ results.HasKey model key ∨ ∃ stages ∈ plan,
        ∃ node, GroupYields model context stages root node ∧ (model.key node == key) = true :=
  foldlM_gathers addGroup_spec consistent added

end ResultSet

/-- An answered query has had no error anywhere, and its answer has exactly the keys of the nodes
that some group yielded below some root. -/
theorem Program.run_spec {program : Program} {provider : Provider Node}
    {registry : Registry Node} {limits : Limits} {roots result : List Node}
    (answered : program.run model provider registry limits roots = .ok result) :
    ∃ plan, program.resolve registry = .ok plan ∧
      (∀ root ∈ roots, ∀ stages ∈ plan, GroupSucceeds model ⟨provider, limits⟩ stages root) ∧
      ∀ key, (∃ node ∈ result, (model.key node == key) = true) ↔
        ∃ root ∈ roots, ∃ stages ∈ plan, ∃ node,
          GroupYields model ⟨provider, limits⟩ stages root node ∧
            (model.key node == key) = true := by
  rcases bind_eq_ok.mp answered with ⟨plan, resolved, answered⟩
  rcases bind_eq_ok.mp answered with ⟨results, gathered, listed⟩
  cases listed
  obtain ⟨_, succeed, keys⟩ :=
    foldlM_gathers ResultSet.addGroups_spec ResultSet.consistent_empty gathered
  refine ⟨plan, mapError_eq_ok.mp resolved, succeed, ?_⟩
  intro key
  have answerKeys := keys key
  simp only [ResultSet.not_hasKey_empty, false_or] at answerKeys
  rw [← answerKeys]
  simp [ResultSet.HasKey, ResultSet.toList]

end NodeQuery
