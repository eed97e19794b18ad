import NodeQuery.Proofs.Predicate.Printing
import NodeQuery.Proofs.Query.Redundancy
import NodeQuery.Proofs.Value.Truth

/-!
# Classes as predicates

Unless it decides otherwise, a node has a class if it has an attribute of that name and the
attribute is true.  A predicate can ask the same: whether the path of that name resolves, and
whether it is true.  The one question goes to the provider and cannot fail; the other is read,
evaluated and asked of values.  Each step can stand in the other's place.
-/

namespace NodeQuery

variable {Node Key : Type}

namespace Predicate

/-! ## The predicate -/

/-- The predicate that asks for a true attribute. -/
def classBody (name : String) : String := "has(" ++ name ++ ") and " ++ name

def classExpr (name : String) : Expr := .and (.call "has" [.path [name]]) (.path [name])

/-- The arguments of `has` are one level deeper than the whole. -/
theorem parse_classBody {name : String} (isName : IsName name) {limit : Nat} (room : 2 ≤ limit) :
    parse (classBody name) limit = .ok (classExpr name) := by
  have path := Reads.name isName
  have argument : Reads Grammar.Items name.toList [.path [name]] 1 := by
    obtain ⟨row, nesting, fits, spells, expression⟩ := path.disjunction.expression
    exact ⟨row, nesting, fits, spells, .some (.one expression)⟩
  have isHas : IsName "has" := ⟨⟨rfl, rfl⟩, rfl⟩
  have read := ((argument.call isHas).and path).expression.parse room
  have spelled : String.ofList ("has".toList ++ '(' :: (name.toList ++ [')']) ++
      ' ' :: ("and".toList ++ ' ' :: name.toList)) = classBody name := by
    apply String.toList_injective
    simp [classBody]
  rwa [spelled] at read

/-- `has` guards the path, so the predicate never fails. -/
theorem eval_classExpr (table : PatternTable) (view : View) (name : String) :
    (classExpr name).eval table view = .ok (.bool ((view [name]).any Value.isTruthy)) := by
  cases resolved : view [name] with
  | none => simp [classExpr, Expr.eval, resolved, bind, Except.bind, Value.isTruthy]
  | some value => simp [classExpr, Expr.eval, resolved, bind, Except.bind, Value.isTruthy]

theorem Compiled.matches?_classBody {name : String} (isName : IsName name) {limit : Nat}
    (room : 2 ≤ limit) (view : View) :
    (Compiled.ofBody (classBody name) limit).matches? view =
      .ok ((view [name]).any Value.isTruthy) := by
  have compiled : ofBody (classBody name) limit =
      ⟨classBody name, .ok (classExpr name), (classExpr name).patterns⟩ := by
    rw [ofBody, parse_classBody isName room]
  rw [compiled]
  change ((classExpr name).eval _ view >>= fun value => .ok value.isTruthy) = _
  rw [eval_classExpr]
  rfl

end Predicate

/-! ## The providers -/

/-- Truth is asked of the value, which is the default. -/
def NodeModel.TrueByValue (model : NodeModel Node Key) : Prop :=
  ∀ node, model.isTruthy node = (model.value node).isTruthy

/-- Classes are the names of true attributes, which is the default. -/
def NodeModel.ClassesByAttributes (model : NodeModel Node Key) : Prop :=
  ∀ node name, model.hasClass node name = (model.attr node name).any model.isTruthy

/-- Whether a node has the class is what the predicate asks. -/
def Provider.Agrees (provider : Provider Node) (model : NodeModel Node Key) (name : String) :
    Prop :=
  ∀ node, provider.hasClass node name =
    (nodeView model provider node [name]).any Value.isTruthy

section

variable {model : NodeModel Node Key} {provider : Provider Node}

theorem Provider.agrees_of_hasClass (truth : model.TrueByValue) {name : String}
    (classes : ∀ node, provider.hasClass node name =
      (provider.attr node name).any model.isTruthy) : provider.Agrees model name := by
  intro node
  rw [classes]
  cases found : provider.attr node name with
  | none => simp [nodeView, Provider.resolve, found]
  | some next => simp [nodeView, Provider.resolve, found, truth next]

theorem NodeModel.agrees_hooks (truth : model.TrueByValue)
    (classes : model.ClassesByAttributes) (name : String) : model.hooks.Agrees model name :=
  Provider.agrees_of_hasClass truth fun node => classes node name

/-- Replaced attributes decide about classes too. -/
theorem Overrides.agrees_provider (truth : model.TrueByValue) {overrides : Overrides Node}
    (attributes : overrides.attr.isSome = true) (noClasses : overrides.hasClass = none)
    (name : String) : (overrides.provider model).Agrees model name := by
  obtain ⟨attr, replaced⟩ := Option.isSome_iff_exists.mp attributes
  apply Provider.agrees_of_hasClass truth
  intro node
  simp [Overrides.provider, replaced, noClasses]

end

theorem DocumentNode.trueByValue : DocumentNode.model.TrueByValue :=
  fun node => node.content.isTruthy_toValue.symm

/-! ## The steps -/

theorem Candidates.tryFilter_eq_filterNodes {test : Node → Except PredicateError Bool}
    {keep : Node → Bool} (decides : ∀ node, test node = .ok (keep node))
    (candidates : Candidates Node) : candidates.tryFilter test = candidates.filterNodes keep := by
  unfold tryFilter filterNodes LazySeq.filter
  congr 1
  funext item
  cases item with
  | error error => rfl
  | ok node =>
      cases kept : keep node <;> simp [decides, kept]

section

variable [BEq Key] [Hashable Key] {model : NodeModel Node Key} {provider : Provider Node}
variable {registry : Registry Node} {limits : Limits} {nesting : Nat}

/-- A step can stand in the place of another one that makes the same of all candidates. -/
theorem Group.Interchangeable.of_apply_eq {operation other : Operation}
    {stage stage' : Stage Node}
    (first : (Step.ofOperation nesting operation).resolve registry = .ok stage)
    (second : (Step.ofOperation nesting other).resolve registry = .ok stage')
    (same : ∀ candidates, Stage.apply model ⟨provider, limits⟩ candidates stage' =
      Stage.apply model ⟨provider, limits⟩ candidates stage)
    (front back : List Operation) :
    Group.Interchangeable model registry ⟨provider, limits⟩ nesting
      ⟨front ++ operation :: back⟩ ⟨front ++ other :: back⟩ := by
  have stages (operation : Operation) : (⟨front ++ operation :: back⟩ : Group).stages registry
      nesting = (do
        let before ← (⟨front⟩ : Group).stages registry nesting
        let stage ← (Step.ofOperation nesting operation).resolve registry
        let behind ← (⟨back⟩ : Group).stages registry nesting
        .ok (before ++ stage :: behind)) := by
    simp only [Group.stages, List.map_append, List.map_cons, List.mapM_append, List.mapM_cons,
      bind_assoc, pure_bind]
    rfl
  have own := stages operation
  have others := stages other
  rw [first] at own
  rw [second] at others
  cases before : (⟨front⟩ : Group).stages registry nesting with
  | error fault =>
      rw [before] at own others
      exact .refused own others
  | ok before' =>
      rw [before] at own others
      cases behind : (⟨back⟩ : Group).stages registry nesting with
      | error fault =>
          rw [behind] at own others
          exact .refused own others
      | ok behind' =>
          rw [behind] at own others
          refine .resolved own others ?_
          intro results root
          simp only [ResultSet.addGroup, groupCandidates, List.foldlM_append, List.foldlM_cons,
            same]

/-- Where the provider agrees, the predicate can stand in the place of the class. -/
theorem Provider.Agrees.interchangeable {name : String} (agrees : provider.Agrees model name)
    (isName : Predicate.IsName name) (room : 2 ≤ nesting) (front back : List Operation) :
    Group.Interchangeable model registry ⟨provider, limits⟩ nesting
      ⟨front ++ .class name :: back⟩
      ⟨front ++ .predicate (Predicate.classBody name) :: back⟩ := by
  refine .of_apply_eq rfl rfl ?_ front back
  intro candidates
  refine congrArg Except.ok (Candidates.tryFilter_eq_filterNodes ?_ candidates)
  intro node
  rw [Predicate.Compiled.matches?_classBody isName room, agrees node]

end

/-- A class step and the predicate that asks for a true attribute of the same name answer alike on
all roots, with all transforms and under all limits: where the nodes' own answers are the defaults,
where the attributes but not the classes are replaced, and on all documents. -/
theorem class_steps_agree_with_predicates {name : String} (isName : Predicate.IsName name)
    {nesting : Nat} (room : 2 ≤ nesting) (source source' : String) (before behind : List Group)
    (front back : List Operation) :
    let classed := Program.ofSelector source
      ⟨before ++ ⟨front ++ .class name :: back⟩ :: behind⟩ nesting
    let tested := Program.ofSelector source'
      ⟨before ++ ⟨front ++ .predicate ("has(" ++ name ++ ") and " ++ name) :: back⟩ :: behind⟩
      nesting
    (∀ {Node Key : Type} [BEq Key] [Hashable Key] (model : NodeModel Node Key),
      model.TrueByValue →
        (model.ClassesByAttributes → ∀ registry limits roots,
          tested.run model model.hooks registry limits roots =
            classed.run model model.hooks registry limits roots) ∧
        ∀ overrides : Overrides Node, overrides.attr.isSome = true → overrides.hasClass = none →
          ∀ registry limits roots,
            tested.run model (overrides.provider model) registry limits roots =
              classed.run model (overrides.provider model) registry limits roots) ∧
      ∀ registry limits roots,
        tested.run DocumentNode.model DocumentNode.model.hooks registry limits roots =
          classed.run DocumentNode.model DocumentNode.model.hooks registry limits roots := by
  intro classed tested
  have same {Node Key : Type} [BEq Key] [Hashable Key] {model : NodeModel Node Key}
      {provider : Provider Node} (agrees : provider.Agrees model name)
      (registry : Registry Node) (limits : Limits) (roots : List Node) :
      tested.run model provider registry limits roots =
        classed.run model provider registry limits roots :=
    (agrees.interchangeable isName room front back).run_eq source before behind roots
  refine ⟨?_, ?_⟩
  · intro Node Key _ _ model truth
    refine ⟨fun classes => same (model.agrees_hooks truth classes name), ?_⟩
    intro overrides attributes noClasses
    exact same (overrides.agrees_provider truth attributes noClasses name)
  · exact same (NodeModel.agrees_hooks DocumentNode.trueByValue (fun _ _ => rfl) name)

/-- The value of the node 2 is true; the attributes that replace the nodes' own lead to the next
node.  In the document, a number beyond 64 bits is true and an empty array is not. -/
theorem class_steps_agree_with_predicates_below_root :
    let classed := Program.ofSelector "*.x" ⟨[⟨[.any, .class "x"]⟩]⟩ 2
    let tested := Program.ofSelector "*[has(x) and x]"
      ⟨[⟨[.any, .predicate "has(x) and x"]⟩]⟩ 2
    let model : NodeModel Nat Nat := {
      key := id
      children := fun
        | 0 => some [1, 2]
        | _ => none
      attr := fun node _ => some node
      value := fun node => .bool (node == 2) }
    let next : Overrides Nat := { attr := some fun node _ => some (node + 1) }
    let large : Document := .object [("x", .int (2 ^ 63))]
    let documents : List DocumentNode := [⟨[], .array [.object [("x", .array [])], large]⟩]
    tested.run model model.hooks .empty ⟨1, 2⟩ [0] = .ok [2] ∧
      tested.run model (next.provider model) .empty ⟨1, 2⟩ [0] = .ok [1] ∧
      (classed.run DocumentNode.model DocumentNode.model.hooks .empty ⟨3, 2⟩ documents).map
        (List.map DocumentNode.path) = .ok [[1]] ∧
      (tested.run DocumentNode.model DocumentNode.model.hooks .empty ⟨3, 2⟩ documents).map
        (List.map DocumentNode.path) = .ok [[1]] := by
  intro classed tested model next large documents
  have isName : Predicate.IsName "x" := ⟨⟨rfl, rfl⟩, rfl⟩
  obtain ⟨models, onDocuments⟩ := class_steps_agree_with_predicates isName (Nat.le_refl 2) "*.x"
    "*[has(x) and x]" [] [] [.any] []
  obtain ⟨onHooks, onOverrides⟩ := models model (fun _ => rfl)
  have found : classed.run model model.hooks .empty ⟨1, 2⟩ [0] = .ok [2] := by
    rw [run_of_resolved rfl]
    rfl
  have foundNext : classed.run model (next.provider model) .empty ⟨1, 2⟩ [0] = .ok [1] := by
    rw [run_of_resolved rfl]
    rfl
  have foundLarge : (classed.run DocumentNode.model DocumentNode.model.hooks .empty ⟨3, 2⟩
      documents).map (List.map DocumentNode.path) = .ok [[1]] := by
    rw [run_of_resolved rfl]
    decide +kernel
  refine ⟨?_, ?_, foundLarge, ?_⟩
  · exact (onHooks (fun _ _ => rfl) .empty ⟨1, 2⟩ [0]).trans found
  · exact (onOverrides next rfl rfl .empty ⟨1, 2⟩ [0]).trans foundNext
  · exact (congrArg (Except.map _) (onDocuments .empty ⟨3, 2⟩ documents)).trans foundLarge

end NodeQuery
