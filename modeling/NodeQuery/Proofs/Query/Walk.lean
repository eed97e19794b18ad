import NodeQuery.Query.Candidates
import NodeQuery.Proofs.LazySeq
import Mathlib.Logic.Relation

/-!
# Walks

The walk of a node is the list of what the descendant step makes of it: the nodes at and below it
in pre-order, down to the depth limit, and at most one error, which ends it.  A walk without an
error is complete: it lists exactly the nodes that child edges lead to.  Nothing is assumed about
the graph of children; a node may occur in its walk several times, or below itself.
-/

namespace NodeQuery

variable {Node : Type}

namespace Provider

/-- The children of a node; a leaf has none, in whatever way it says so. -/
def childList (provider : Provider Node) (node : Node) : List Node :=
  (provider.children node).getD []

/-- There is a child edge between the two nodes. -/
def IsChild (provider : Provider Node) (parent child : Node) : Prop :=
  child ∈ provider.childList parent

/-- Zero or more child edges lead from one node to the other. -/
def Reaches (provider : Provider Node) : Node → Node → Prop :=
  Relation.ReflTransGen provider.IsChild

end Provider

namespace Eager

/-! ## Lists of items -/

/-- No item is an error. -/
def ErrorFree (items : List (Item Node)) : Prop :=
  ∀ error, .error error ∉ items

@[simp] theorem errorFree_nil : ErrorFree ([] : List (Item Node)) := by
  simp [ErrorFree]

@[simp] theorem errorFree_ok_cons {node : Node} {items : List (Item Node)} :
    ErrorFree (.ok node :: items) ↔ ErrorFree items := by
  simp [ErrorFree]

@[simp] theorem not_errorFree_error_cons {error : Error} {items : List (Item Node)} :
    ¬ ErrorFree (.error error :: items) :=
  fun free => free error List.mem_cons_self

theorem errorFree_flatMap {α : Type} {f : α → List (Item Node)} {values : List α} :
    ErrorFree (values.flatMap f) ↔ ∀ value ∈ values, ErrorFree (f value) := by
  simp only [ErrorFree, List.mem_flatMap, not_exists, not_and]
  exact ⟨fun free value member error => free error value member,
    fun free error value member => free value member error⟩

/-- Replaces each node by items; errors stay in their places. -/
def replaceNodes (f : Node → List (Item Node)) (items : List (Item Node)) : List (Item Node) :=
  items.flatMap fun
    | .ok node => f node
    | .error error => [.error error]

theorem mem_replaceNodes {f : Node → List (Item Node)} {items : List (Item Node)} {node : Node} :
    .ok node ∈ replaceNodes f items ↔ ∃ before, .ok before ∈ items ∧ .ok node ∈ f before := by
  simp only [replaceNodes, List.mem_flatMap]
  constructor
  · rintro ⟨item, member, made⟩
    cases item with
    | error error => simp at made
    | ok before => exact ⟨before, member, made⟩
  · rintro ⟨before, member, made⟩
    exact ⟨.ok before, member, made⟩

theorem errorFree_replaceNodes {f : Node → List (Item Node)} {items : List (Item Node)} :
    ErrorFree (replaceNodes f items) ↔
      ErrorFree items ∧ ∀ node, .ok node ∈ items → ErrorFree (f node) := by
  rw [replaceNodes, errorFree_flatMap]
  constructor
  · intro free
    exact ⟨fun error member => not_errorFree_error_cons (free _ member),
      fun node member => free _ member⟩
  · rintro ⟨free, made⟩ item member
    cases item with
    | error error => exact absurd member (free error)
    | ok node => exact made node member

/-- The items up to the first error, the error included. -/
def untilError : List (Item Node) → List (Item Node)
  | [] => []
  | .error error :: _ => [.error error]
  | .ok node :: items => .ok node :: untilError items

theorem errorFree_untilError {items : List (Item Node)} :
    ErrorFree (untilError items) ↔ ErrorFree items := by
  induction items with
  | nil => rfl
  | cons item items ih => cases item <;> simp [untilError, ih]

theorem untilError_eq_self {items : List (Item Node)} (free : ErrorFree items) :
    untilError items = items := by
  induction items with
  | nil => rfl
  | cons item items ih =>
      cases item with
      | error error => exact absurd free not_errorFree_error_cons
      | ok node => simp [untilError, ih (errorFree_ok_cons.mp free)]

/-! ## Walks -/

section

variable (provider : Provider Node) (limit : Nat)

/-- The nodes at and below a node in pre-order, `depth` levels deep.  A node on the last level that
has children is replaced by an error. -/
def preorder : (depth : Nat) → Node → List (Item Node)
  | 0, node =>
      if (provider.childList node).isEmpty then [.ok node]
      else [.error (.query (.depthLimitExceeded limit))]
  | depth + 1, node => .ok node :: (provider.childList node).flatMap (preorder depth)

/-- The depth-limited walk of a node, which its first error ends. -/
def walk (node : Node) : List (Item Node) :=
  untilError (preorder provider limit limit node)

end

/-- The items up to the first error and then `cut`, or all of them and then `next`. -/
def followedBy (next cut : List (Item Node)) : List (Item Node) → List (Item Node)
  | [] => next
  | .error error :: _ => .error error :: cut
  | .ok node :: items => .ok node :: followedBy next cut items

theorem followedBy_append (next cut left right : List (Item Node)) :
    followedBy next cut (left ++ right) =
      followedBy (followedBy next cut right) cut left := by
  induction left with
  | nil => rfl
  | cons item left ih => cases item <;> simp [followedBy, ih]

/-- If it does not matter whether the items are cut, the rest simply follows them. -/
theorem followedBy_self (next items : List (Item Node)) :
    followedBy next next items = untilError items ++ next := by
  induction items with
  | nil => rfl
  | cons item items ih => cases item <;> simp [followedBy, untilError, ih]

variable {provider : Provider Node} {limit : Nat}

/-! ## What a walk lists -/

theorem reaches_of_mem_preorder {depth : Nat} {node target : Node}
    (member : .ok target ∈ preorder provider limit depth node) :
    provider.Reaches node target := by
  induction depth generalizing node with
  | zero =>
      simp only [preorder] at member
      split at member
      · rw [List.mem_singleton, Except.ok.injEq] at member
        rw [member]
        exact .refl
      · simp at member
  | succ depth ih =>
      simp only [preorder, List.mem_cons, List.mem_flatMap, Except.ok.injEq] at member
      rcases member with rfl | ⟨child, edge, below⟩
      · exact .refl
      · exact .head edge (ih below)

/-- Nothing is missing from a listing without an error: the last level has no children then. -/
theorem mem_preorder_of_reaches {depth : Nat} {node target : Node}
    (free : ErrorFree (preorder provider limit depth node))
    (path : provider.Reaches node target) :
    .ok target ∈ preorder provider limit depth node := by
  induction depth generalizing node with
  | zero =>
      simp only [preorder] at free ⊢
      split at free
      case isTrue leaf =>
          rcases path.cases_head with rfl | ⟨child, edge, _⟩
          · simp [leaf]
          · rw [List.isEmpty_iff] at leaf
            simp [Provider.IsChild, leaf] at edge
      case isFalse => exact absurd free not_errorFree_error_cons
  | succ depth ih =>
      simp only [preorder, errorFree_ok_cons, errorFree_flatMap] at free
      simp only [preorder, List.mem_cons, List.mem_flatMap, Except.ok.injEq]
      rcases path.cases_head with rfl | ⟨child, edge, below⟩
      · exact .inl rfl
      · exact .inr ⟨child, edge, ih (free child edge) below⟩

theorem mem_walk_iff {node target : Node} (free : ErrorFree (walk provider limit node)) :
    .ok target ∈ walk provider limit node ↔ provider.Reaches node target := by
  have whole : ErrorFree (preorder provider limit limit node) := errorFree_untilError.mp free
  rw [walk, untilError_eq_self whole]
  exact ⟨reaches_of_mem_preorder, mem_preorder_of_reaches whole⟩

end Eager

/-! ## The descendant step -/

namespace Candidates

open Eager

variable {provider : Provider Node} {limit : Nat}

/-- The walk of a node is its pre-order listing with the two continuations behind it.  The
induction is on the depth; the children of one node are taken one after the other, each in front of
the continuation that the next one makes. -/
theorem toList_walkFrom (depth : Nat) (node : Node)
    (next cut : Unit → LazyCell (Item Node)) :
    (walkFrom provider limit depth node next cut).toList =
      followedBy (next ()).toList (cut ()).toList (preorder provider limit depth node) := by
  induction depth generalizing node next with
  | zero =>
      cases children : provider.children node with
      | none => simp [walkFrom, preorder, Provider.childList, children, followedBy]
      | some list =>
          cases list with
          | nil => simp [walkFrom, preorder, Provider.childList, children, followedBy]
          | cons child rest =>
              simp [walkFrom, preorder, Provider.childList, children, followedBy]
  | succ depth ih =>
      have rows : ∀ children : List Node,
          ((children.foldr (fun child after => fun _ =>
            walkFrom provider limit depth child after cut) next) ()).toList =
            followedBy (next ()).toList (cut ()).toList
              (children.flatMap (preorder provider limit depth)) := by
        intro children
        induction children with
        | nil => rfl
        | cons child children rowIH =>
            rw [List.foldr_cons, List.flatMap_cons, followedBy_append, ← rowIH]
            exact ih child _
      cases children : provider.children node with
      | none =>
          simp [walkFrom, preorder, Provider.childList, children, followedBy]
      | some list =>
          simp [walkFrom, preorder, Provider.childList, children, followedBy, rows]

theorem toList_descendCell (cell : LazyCell (Item Node)) :
    (descendCell provider limit cell).toList =
      replaceNodes (walk provider limit) cell.toList := by
  induction cell with
  | done => rfl
  | item value rest ih =>
      cases value with
      | error error => simp [descendCell, replaceNodes, ih]
      | ok node =>
          simp [descendCell, replaceNodes, walk, toList_walkFrom, followedBy_self, ih]

@[simp] theorem toList_descendants (candidates : Candidates Node) :
    (candidates.descendants provider limit).toList =
      replaceNodes (walk provider limit) candidates.toList :=
  toList_descendCell _

end Candidates

end NodeQuery
