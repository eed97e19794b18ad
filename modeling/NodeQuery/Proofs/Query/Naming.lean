import NodeQuery.Proofs.Query.DepthLimit
import NodeQuery.Proofs.Query.Traversal

/-!
# Names that are missing

All names of a selector are looked up before anything runs.  The first operation in the order of the
text that has no transform, or that no step stands for, is the answer to every query, whatever the
nodes are.  With the builtin transforms this is the only way to such an answer: none of them, and no
step, makes an error of that kind later.
-/

namespace NodeQuery

variable {Node Key : Type}

/-- Why an operation cannot be run with the given transforms: a name that none of them has, or a
combinator that no step stands for. -/
def Operation.fault? (registry : Registry Node) : Operation → Option QueryError
  | .pseudo name =>
      if (registry.pseudo? name).isSome then none else some (.unknownPseudo name)
  | .function name _ =>
      if (registry.function? name).isSome then none else some (.unknownFunction name)
  | .combinator .sibling => some (.unsupportedCombinator .sibling)
  | .combinator .adjacent => some (.unsupportedCombinator .adjacent)
  | _ => none

/-- Why the first operation in the order of the text that cannot be run cannot be run. -/
def Selector.fault? (registry : Registry Node) (selector : Selector) : Option QueryError :=
  (selector.groups.flatMap Group.operations).findSome? (Operation.fault? registry)

/-- Whether the error is about a name or a combinator, not about arguments or nodes. -/
def QueryError.concernsName : QueryError → Bool
  | .unknownPseudo _ | .unknownFunction _ | .unsupportedCombinator _ => true
  | .invalidArgument _ _ _ | .depthLimitExceeded _ => false

/-! ## Looking up names -/

variable {registry : Registry Node} {nesting : Nat}

theorem Step.resolve_eq_error {operation : Operation} {fault : QueryError} :
    (Step.ofOperation nesting operation).resolve registry = .error fault ↔
      operation.fault? registry = some fault := by
  cases operation with
  | pseudo name =>
      simp only [Step.ofOperation, Step.resolve, Operation.fault?]
      cases registry.pseudo? name with
      | some transform => simp
      | none => simp
  | function name args =>
      simp only [Step.ofOperation, Step.resolve, Operation.fault?]
      cases registry.function? name with
      | some transform => simp
      | none => simp
  | combinator link =>
      cases link with
      | descendant => simp [Step.ofOperation, Step.resolve, Operation.fault?]
      | child => simp [Step.ofOperation, Step.resolve, Operation.fault?]
      | sibling => simp [Step.ofOperation, Step.resolve, Operation.fault?]
      | adjacent => simp [Step.ofOperation, Step.resolve, Operation.fault?]
  | _ => simp [Step.ofOperation, Step.resolve, Operation.fault?]

theorem Step.resolve_row_eq_error {operations : List Operation} {fault : QueryError} :
    (operations.map (Step.ofOperation nesting)).mapM (Step.resolve registry) = .error fault ↔
      operations.findSome? (Operation.fault? registry) = some fault := by
  rw [List.mapM_map]
  exact mapM_eq_error fun _ _ => Step.resolve_eq_error

theorem Program.resolve_eq_error {source : String} {selector : Selector} {fault : QueryError} :
    (Program.ofSelector source selector nesting).resolve registry = .error fault ↔
      selector.fault? registry = some fault := by
  rw [Program.resolve, Program.ofSelector, Selector.fault?, findSome?_flatMap, List.mapM_map]
  exact mapM_eq_error fun _ _ => Step.resolve_row_eq_error

theorem Program.exists_resolve_eq_ok {source : String} {selector : Selector}
    (faultless : selector.fault? registry = none) :
    ∃ plan, (Program.ofSelector source selector nesting).resolve registry = .ok plan := by
  cases resolved : (Program.ofSelector source selector nesting).resolve registry with
  | ok plan => exact ⟨plan, rfl⟩
  | error fault =>
      rw [Program.resolve_eq_error, faultless] at resolved
      cases resolved

theorem Program.faultless_of_resolve {source : String} {selector : Selector}
    {plan : List (List (Stage Node))}
    (resolved : (Program.ofSelector source selector nesting).resolve registry = .ok plan) :
    selector.fault? registry = none := by
  cases found : selector.fault? registry with
  | none => rfl
  | some fault =>
      rw [Program.resolve_eq_error.mpr found] at resolved
      cases resolved

/-! ## What can fail later -/

namespace Eager

/-- No error among the items is about a name. -/
def NamesKnown (items : List (Item Node)) : Prop :=
  ∀ fault, .error (.query fault) ∈ items → fault.concernsName = false

theorem namesKnown_flatMap {α : Type} {f : α → List (Item Node)} {values : List α}
    (known : ∀ value ∈ values, NamesKnown (f value)) : NamesKnown (values.flatMap f) := by
  intro fault member
  obtain ⟨value, among, made⟩ := List.mem_flatMap.mp member
  exact known value among fault made

theorem namesKnown_replaceNodes {f : Node → List (Item Node)} {items : List (Item Node)}
    (known : NamesKnown items) (made : ∀ node, NamesKnown (f node)) :
    NamesKnown (replaceNodes f items) := by
  apply namesKnown_flatMap
  intro item member
  cases item with
  | ok node => exact made node
  | error error =>
      intro fault same
      exact known fault (List.mem_singleton.mp same ▸ member)

theorem namesKnown_of_nodes (nodes : List Node) : NamesKnown (nodes.map Except.ok) := by
  intro fault member
  simp at member

theorem namesKnown_walk (provider : Provider Node) (limit : Nat) (node : Node) :
    NamesKnown (walk provider limit node) := by
  intro fault member
  obtain ⟨same, _⟩ := error_mem_walk.mp member
  cases same
  rfl

theorem mem_of_firstError? {items : List (Item Node)} {error : Error}
    (first : firstError? items = some error) : .error error ∈ items := by
  obtain ⟨item, member, found⟩ := List.exists_of_findSome?_eq_some first
  cases item with
  | ok node => cases found
  | error other =>
      cases found
      exact member

theorem namesKnown_last {items : List (Item Node)} (known : NamesKnown items) :
    NamesKnown (last items) := by
  intro fault member
  unfold last at member
  split at member
  case h_1 error first =>
      exact known fault (List.mem_singleton.mp member ▸ mem_of_firstError? first)
  case h_2 =>
      rw [Option.mem_toList] at member
      exact known fault (List.mem_of_getLast? member)

theorem namesKnown_nth {items : List (Item Node)} (known : NamesKnown items) (position : Nat) :
    NamesKnown (nth position items) := by
  intro fault member
  unfold nth at member
  split at member
  case h_1 => simp at member
  case h_2 =>
      simp only [List.mem_map, Option.mem_toList] at member
      obtain ⟨error, first, same⟩ := member
      cases same
      exact known fault (mem_of_firstError? first)

/-- A step that can be run passes on errors and makes none that is about a name. -/
theorem namesKnown_step {model : NodeModel Node Key} {provider : Provider Node} {maxDepth : Nat}
    {items : List (Item Node)} {operation : Operation} (known : NamesKnown items)
    (faultless : operation.fault? (Registry.builtin : Registry Node) = none) :
    NamesKnown (outcomeItems
      (Eager.step model provider maxDepth items (.ofOperation nesting operation))) := by
  have kept (keep : Node → Bool) : NamesKnown (keepNodes keep items) :=
    fun fault member => known fault (List.mem_filter.mp member).1
  cases operation with
  | any => exact known
  | tag name => exact kept _
  | «class» name => exact kept _
  | id name => exact kept _
  | predicate body =>
      apply namesKnown_replaceNodes known
      intro node fault member
      split at member
      all_goals simp at member
  | pseudo name =>
      simp only [Step.ofOperation, Eager.step, pseudo]
      split
      case isTrue => exact fun fault member => known fault (List.mem_of_mem_take member)
      case isFalse notFirst =>
          split
          case isTrue => exact namesKnown_last known
          case isFalse notLast =>
              simp [Operation.fault?, Registry.pseudo?, Registry.builtin, List.lookup_cons,
                beq_false_of_ne notFirst, beq_false_of_ne notLast] at faultless
  | function name args =>
      simp only [Step.ofOperation, Eager.step, function]
      split
      case isTrue =>
          cases Registry.position? args with
          | none => simp [NamesKnown, outcomeItems, QueryError.concernsName]
          | some position =>
              by_cases negative : position < 0
              · simp [NamesKnown, outcomeItems, negative]
              · simpa [negative, outcomeItems] using namesKnown_nth known position.toNat
      case isFalse notNth =>
          split
          case isTrue =>
              split
              · simp [NamesKnown, outcomeItems, QueryError.concernsName]
              · exact namesKnown_replaceNodes known fun node => namesKnown_of_nodes _
          case isFalse notAttr =>
              simp [Operation.fault?, Registry.function?, Registry.builtin, List.lookup_cons,
                beq_false_of_ne notNth, beq_false_of_ne notAttr] at faultless
  | combinator link =>
      cases link with
      | descendant => exact namesKnown_replaceNodes known (namesKnown_walk provider maxDepth)
      | child => exact namesKnown_replaceNodes known fun node => namesKnown_of_nodes _
      | sibling => cases faultless
      | adjacent => cases faultless

/-- A row of steps does what its steps do. -/
theorem namesKnown_steps {model : NodeModel Node Key} {provider : Provider Node} {maxDepth : Nat}
    {items : List (Item Node)} (known : NamesKnown items) {operations : List Operation}
    (faultless : ∀ operation ∈ operations,
      operation.fault? (Registry.builtin : Registry Node) = none) :
    NamesKnown (outcomeItems ((operations.map (Step.ofOperation nesting)).foldlM
      (Eager.step model provider maxDepth) items)) := by
  induction operations generalizing items with
  | nil => exact known
  | cons operation operations ih =>
      obtain ⟨head, tail⟩ := List.forall_mem_cons.mp faultless
      have first : NamesKnown (outcomeItems
          (Eager.step model provider maxDepth items (.ofOperation nesting operation))) :=
        namesKnown_step known head
      rw [List.map_cons, List.foldlM_cons]
      cases made : Eager.step model provider maxDepth items (.ofOperation nesting operation) with
      | error fault =>
          rw [made] at first
          exact first
      | ok next =>
          rw [made] at first
          exact ih first tail

end Eager

/-! ## Queries -/

variable {model : NodeModel Node Key} {provider : Provider Node} {limits : Limits}
variable {source : String} {selector : Selector} {roots : List Node}

theorem namesKnown_allItems {plan : List (List (Stage Node))}
    (faultless : selector.fault? (Registry.builtin : Registry Node) = none)
    (resolved : (Program.ofSelector source selector nesting).resolve .builtin = .ok plan) :
    Eager.NamesKnown (allItems model ⟨provider, limits⟩ plan roots) := by
  rw [allItems_eq resolved]
  apply Eager.namesKnown_flatMap
  intro root _
  apply Eager.namesKnown_flatMap
  intro steps member
  obtain ⟨group, among, rfl⟩ := List.mem_map.mp member
  apply Eager.namesKnown_steps (Eager.namesKnown_walk provider limits.maxDepth root)
  intro operation inGroup
  exact List.findSome?_eq_none_iff.mp faultless operation
    (List.mem_flatMap.mpr ⟨group, among, inGroup⟩)

variable [BEq Key] [Hashable Key]

/-- Nothing but the missing name decides the answer. -/
theorem Program.run_of_fault {fault : QueryError}
    (missing : selector.fault? registry = some fault) :
    (Program.ofSelector source selector nesting).run model provider registry limits roots =
      .error (.query fault) := by
  rw [Program.run, Program.resolve_eq_error.mpr missing]
  rfl

/-- An operation that cannot be run, if there is one, is the answer to every query of its selector:
the first such operation, whatever the nodes, the limits and the roots are, even if there are no
roots.  If there is none among the builtin transforms, no query has an answer of that kind. -/
theorem missing_names_come_first (source : String) (selector : Selector) (nesting : Nat) :
    let program := Program.ofSelector source selector nesting
    (∀ (registry : Registry Node) (fault : QueryError), selector.fault? registry = some fault →
      ∀ (model : NodeModel Node Key) (provider : Provider Node) (limits : Limits)
        (roots : List Node),
        program.run model provider registry limits roots = .error (.query fault)) ∧
      (selector.fault? (Registry.builtin : Registry Node) = none →
        ∀ (model : NodeModel Node Key) (provider : Provider Node) (limits : Limits)
          (roots : List Node) (fault : QueryError), fault.concernsName = true →
          program.run model provider .builtin limits roots ≠ .error (.query fault)) := by
  intro program
  constructor
  · intro registry fault missing model provider limits roots
    exact Program.run_of_fault missing
  · intro faultless model provider limits roots fault concerned answered
    have resolves : ∃ plan, program.resolve (Registry.builtin : Registry Node) = .ok plan :=
      Program.exists_resolve_eq_ok faultless
    obtain ⟨plan, resolved⟩ := resolves
    have known : Eager.NamesKnown (allItems model ⟨provider, limits⟩ plan roots) :=
      namesKnown_allItems faultless resolved
    rw [run_eq_foldlM resolved, ResultSet.foldlM_addItem] at answered
    split at answered
    case h_1 error first =>
        cases answered
        rw [known fault (Eager.mem_of_firstError? first)] at concerned
        cases concerned
    case h_2 => cases answered

/-- The combinator comes before the name behind it, and before the bad argument of the first group.
By itself, the first group is refused for that argument. -/
theorem missing_names_come_first_behind_bad_argument :
    let model : NodeModel Nat Nat := { key := id }
    let group : Group := ⟨[.any, .function "nth-child" "x"]⟩
    let both : Selector := ⟨[group, ⟨[.any, .combinator .adjacent, .pseudo "nowhere"]⟩]⟩
    let run := fun selector roots => (Program.ofSelector "" selector 1).run model model.hooks
      .builtin ⟨2, 1⟩ roots
    both.fault? (Registry.builtin : Registry Nat) = some (.unsupportedCombinator .adjacent) ∧
      run both [] = .error (.query (.unsupportedCombinator .adjacent)) ∧
      run both [0] = .error (.query (.unsupportedCombinator .adjacent)) ∧
      Selector.fault? (Registry.builtin : Registry Nat) ⟨[group]⟩ = none ∧
      run ⟨[group]⟩ [0] =
        .error (.query (.invalidArgument "nth-child" "x" "expected an integer")) ∧
      run ⟨[group]⟩ [0] ≠ .error (.query (.unknownFunction "nth-child")) := by
  intro model group both run
  have missing : both.fault? (Registry.builtin : Registry Nat) =
      some (.unsupportedCombinator .adjacent) := rfl
  have faultless : Selector.fault? (Registry.builtin : Registry Nat) ⟨[group]⟩ = none := rfl
  have first := (missing_names_come_first "" both 1).1 .builtin _ missing model model.hooks ⟨2, 1⟩
  have never := (missing_names_come_first "" ⟨[group]⟩ 1).2 faultless model model.hooks ⟨2, 1⟩ [0]
  refine ⟨missing, first [], first [0], faultless, rfl, ?_⟩
  exact never (.unknownFunction "nth-child") rfl

end NodeQuery
