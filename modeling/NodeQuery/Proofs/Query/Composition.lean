import NodeQuery.Proofs.Query.Answer
import NodeQuery.Proofs.Query.Pipeline

/-!
# What a query's answer is made of

A query visits the groups below one root after the other and asks each for all of its items.  Its
answer is the first error among these items, or else all of their nodes without the later ones of
the same key.  Nothing is assumed here of the registered transforms.
-/

namespace NodeQuery

/-! ## The first value of each key -/

section

variable {α κ : Type} [BEq κ] (key : α → κ)

/-- The values without those whose key an earlier value has. -/
def firstOfEach (values : List α) : List α :=
  values.eraseDupsBy fun later earlier => key later == key earlier

theorem firstOfEach_cons (value : α) (values : List α) :
    firstOfEach key (value :: values) =
      value :: firstOfEach key (values.filter fun other => !(key other == key value)) := by
  rw [firstOfEach, List.eraseDupsBy_cons]
  simp [firstOfEach]

/-- Whatever holds of no values, and of some values if it holds of those with another key than the
first, holds of all values. -/
theorem firstOfEach_induction {motive : List α → Prop} (nil : motive [])
    (cons : ∀ value values, motive (values.filter fun other => !(key other == key value)) →
      motive (value :: values)) (values : List α) : motive values := by
  cases values with
  | nil => exact nil
  | cons value values => exact cons value values (firstOfEach_induction nil cons _)
termination_by values.length
decreasing_by simpa using Nat.lt_succ_of_le (List.length_filter_le _ values)

theorem firstOfEach_sublist (values : List α) : (firstOfEach key values).Sublist values := by
  induction values using firstOfEach_induction key with
  | nil => exact .slnil
  | cons value values ih =>
      rw [firstOfEach_cons]
      exact (ih.trans List.filter_sublist).cons_cons value

/-- No two of the first values have the same key. -/
theorem pairwise_firstOfEach [PartialEquivBEq κ] (values : List α) :
    (firstOfEach key values).Pairwise fun earlier later => (key earlier == key later) = false := by
  induction values using firstOfEach_induction key with
  | nil => exact .nil
  | cons value values ih =>
      rw [firstOfEach_cons, List.pairwise_cons]
      refine ⟨?_, ih⟩
      intro other member
      have kept := List.mem_filter.mp ((firstOfEach_sublist key _).subset member)
      rw [BEq.comm]
      simpa using kept.2

/-- Each value's key is the key of a first value. -/
theorem exists_mem_firstOfEach [EquivBEq κ] {values : List α} {value : α}
    (member : value ∈ values) :
    ∃ first ∈ firstOfEach key values, (key first == key value) = true := by
  induction values using firstOfEach_induction key with
  | nil => cases member
  | cons head values ih =>
      rw [firstOfEach_cons]
      by_cases same : (key head == key value) = true
      · exact ⟨head, List.mem_cons_self, same⟩
      · rcases List.mem_cons.mp member with rfl | behind
        · exact absurd BEq.rfl same
        · have other : value ∈ values.filter fun other => !(key other == key head) :=
            List.mem_filter.mpr ⟨behind, by simpa [BEq.comm] using same⟩
          rcases ih other with ⟨first, found, agrees⟩
          exact ⟨first, .tail _ found, agrees⟩

/-- A first value is the first one that has its key. -/
theorem find?_of_mem_firstOfEach [EquivBEq κ] {values : List α} {first : α}
    (member : first ∈ firstOfEach key values) :
    values.find? (fun value => key value == key first) = some first := by
  induction values using firstOfEach_induction key with
  | nil => cases member
  | cons head values ih =>
      rw [firstOfEach_cons] at member
      rcases List.mem_cons.mp member with rfl | behind
      · exact List.find?_cons_of_pos BEq.rfl
      · have differs : (key first == key head) = false := by
          simpa using (List.mem_filter.mp ((firstOfEach_sublist key _).subset behind)).2
        have missed : ¬ (key head == key first) = true := by
          rw [BEq.comm, differs]
          exact Bool.false_ne_true
        rw [List.find?_cons_of_neg (p := fun value => key value == key first) missed,
          ← ih behind, List.find?_filter]
        congr 1
        funext value
        cases agrees : key value == key first with
        | false => simp
        | true => rw [BEq.congr_left agrees, differs]; rfl

end

/-! ## All items of a query -/

section

variable {Node Key : Type} (model : NodeModel Node Key) (context : Context Node)

/-- The items of a group below a root.  A group that cannot be set up has one error instead. -/
def groupItems (stages : List (Stage Node)) (root : Node) : List (Item Node) :=
  match groupCandidates model context stages root with
  | .ok candidates => candidates.toList
  | .error error => [.error (.query error)]

/-- The items of all groups below the first root, then those below the second, and so on. -/
def allItems (plan : List (List (Stage Node))) (roots : List Node) : List (Item Node) :=
  roots.flatMap fun root => plan.flatMap fun stages => groupItems model context stages root

end

namespace ResultSet

variable {Node Key : Type} [BEq Key] [Hashable Key] {model : NodeModel Node Key}

/-- The results behind some nodes. -/
def insertAll (model : NodeModel Node Key) (results : ResultSet Node Key) (nodes : List Node) :
    ResultSet Node Key :=
  nodes.foldl (fun results node => results.insert (model.key node) node) results

theorem addGroup_eq_foldlM (results : ResultSet Node Key) (context : Context Node) (root : Node)
    (stages : List (Stage Node)) :
    results.addGroup model context root stages =
      (groupItems model context stages root).foldlM (addItem model) results := by
  rw [addGroup, groupItems]
  cases groupCandidates model context stages root with
  | error error => rfl
  | ok candidates => exact addAll_eq_foldlM results _

/-- The groups below all roots are one run over all of their items. -/
theorem addGroups_eq_foldlM (results : ResultSet Node Key) (context : Context Node)
    (plan : List (List (Stage Node))) (roots : List Node) :
    roots.foldlM (fun results root => plan.foldlM (fun results stages =>
        results.addGroup model context root stages) results) results =
      (allItems model context plan roots).foldlM (addItem model) results := by
  simp only [addGroup_eq_foldlM, allItems, foldlM_flatMap]

/-- Adding items stops at the first error, and adds all nodes if there is none. -/
theorem foldlM_addItem (results : ResultSet Node Key) (items : List (Item Node)) :
    items.foldlM (addItem model) results =
      match Eager.firstError? items with
      | some error => .error error
      | none => .ok (results.insertAll model (items.filterMap Except.toOption)) := by
  induction items generalizing results with
  | nil => rfl
  | cons item items ih =>
      cases item with
      | error error => rfl
      | ok node => exact ih (results.insert (model.key node) node)

variable [EquivBEq Key] [LawfulHashable Key]

/-- Of the nodes added, the first ones of the keys not seen before come behind the earlier
results. -/
theorem toList_insertAll (results : ResultSet Node Key) (nodes : List Node) :
    (results.insertAll model nodes).toList = results.toList ++
      firstOfEach model.key (nodes.filter fun node => !results.seen.contains (model.key node)) := by
  induction nodes generalizing results with
  | nil => simp [insertAll, firstOfEach]
  | cons node nodes ih =>
      rw [insertAll, List.foldl_cons, ← insertAll, ih]
      by_cases seen : results.seen.contains (model.key node) = true
      · simp [insert, seen]
      · -- The keys seen from now on include the node's, so later nodes of its key drop out.
        have added : results.insert (model.key node) node =
            ⟨results.seen.insert (model.key node), node :: results.nodes⟩ := by
          simp [insert, seen]
        rw [added, List.filter_cons_of_pos (by simp [seen]), firstOfEach_cons, List.filter_filter]
        simp [toList, Std.HashSet.contains_insert, BEq.comm]

end ResultSet

/-! ## The answer -/

section

variable {Node Key : Type} [BEq Key] [Hashable Key]
variable {model : NodeModel Node Key} {provider : Provider Node} {registry : Registry Node}
variable {program : Program} {plan : List (List (Stage Node))}

/-- If all names resolve, the answer is one run over all items. -/
theorem run_eq_foldlM (resolved : program.resolve registry = .ok plan) (limits : Limits)
    (roots : List Node) :
    program.run model provider registry limits roots =
      ((allItems model ⟨provider, limits⟩ plan roots).foldlM (ResultSet.addItem model)
        ResultSet.empty).map ResultSet.toList := by
  rw [Program.run, resolved, ← ResultSet.addGroups_eq_foldlM]
  rfl

variable [EquivBEq Key] [LawfulHashable Key]

/-- If all names resolve, the answer is the first error, or else the first node of each key. -/
theorem run_of_resolved (resolved : program.resolve registry = .ok plan) (limits : Limits)
    (roots : List Node) :
    program.run model provider registry limits roots =
      match Eager.firstError? (allItems model ⟨provider, limits⟩ plan roots) with
      | some error => .error error
      | none => .ok (firstOfEach model.key
          ((allItems model ⟨provider, limits⟩ plan roots).filterMap Except.toOption)) := by
  rw [run_eq_foldlM resolved, ResultSet.foldlM_addItem]
  cases Eager.firstError? (allItems model ⟨provider, limits⟩ plan roots) with
  | some error => rfl
  | none =>
      change Except.ok (ResultSet.toList _) = _
      rw [ResultSet.toList_insertAll]
      simp [ResultSet.empty, ResultSet.toList]

/-- If all names resolve, a query answers with the first error that it meets below the roots in
their order and in the groups in theirs, or, if there is none, with the nodes it meets on this way
without those whose key an earlier one has.  No two nodes of the answer have the same key, none of
the keys is missing, and each node is the first of its key. -/
theorem run_keeps_first_of_each_key (resolved : program.resolve registry = .ok plan)
    (limits : Limits) (roots : List Node) :
    let items := allItems model ⟨provider, limits⟩ plan roots
    let nodes := items.filterMap Except.toOption
    let answer := program.run model provider registry limits roots
    (∀ error, Eager.firstError? items = some error → answer = .error error) ∧
      (Eager.firstError? items = none → answer = .ok (firstOfEach model.key nodes)) ∧
      ∀ result, answer = .ok result →
        result.Pairwise (fun earlier later => (model.key earlier == model.key later) = false) ∧
        (∀ node ∈ nodes, ∃ kept ∈ result, (model.key kept == model.key node) = true) ∧
        ∀ kept ∈ result,
          nodes.find? (fun node => model.key node == model.key kept) = some kept := by
  intro items nodes answer
  have composed : answer = _ := run_of_resolved resolved limits roots
  refine ⟨?_, ?_, ?_⟩
  · intro error first
    rw [composed, first]
  · intro free
    rw [composed, free]
  · intro result answered
    have listed : firstOfEach model.key nodes = result := by
      rw [composed] at answered
      cases first : Eager.firstError? items with
      | some error =>
          rw [first] at answered
          cases answered
      | none =>
          rw [first] at answered
          exact Except.ok.inj answered
    subst listed
    exact ⟨pairwise_firstOfEach model.key nodes,
      fun _ member => exists_mem_firstOfEach model.key member,
      fun _ member => find?_of_mem_firstOfEach model.key member⟩

end

/-- Nodes count as the same if they differ by a multiple of three: the node 5, found first, keeps
the node 2 out of the answer, and a transform that repeats its items adds nothing. -/
theorem run_keeps_first_of_residues :
    let model : NodeModel Nat Nat := {
      key := fun node => node % 3
      children := fun
        | 0 => some [1, 2, 4]
        | _ => none }
    let twice : Pseudo Nat := fun _ candidates =>
      .ofList (candidates.toList ++ candidates.toList)
    let registry : Registry Nat := ⟨[("twice", twice)], []⟩
    let program : Program := ⟨":twice, * > *", ⟨[]⟩, [[.pseudo "twice"], [.any, .children, .any]]⟩
    program.resolve registry = .ok [[.pseudo twice], [.any, .children, .any]] ∧
      program.run model model.hooks registry ⟨2, 1⟩ [5, 0] = .ok [5, 0, 1] := by
  intro model twice registry program
  have resolved : program.resolve registry =
      .ok [[.pseudo twice], [.any, .children, .any]] := rfl
  have free : Eager.firstError? (allItems model ⟨model.hooks, ⟨2, 1⟩⟩
      [[.pseudo twice], [.any, .children, .any]] [5, 0]) = none := rfl
  refine ⟨resolved, ?_⟩
  rw [(run_keeps_first_of_each_key resolved ⟨2, 1⟩ [5, 0]).2.1 free]
  rfl

end NodeQuery
