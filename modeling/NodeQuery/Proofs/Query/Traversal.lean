import NodeQuery.Proofs.Query.Walk

/-!
# Walks with a stack

The descendant step never recurses: it keeps what is left of the children on each open level on a
stack, takes the next node from the innermost level, and finds the depth of a node by counting the
levels.  A level that is used up stays on the stack until the next item is asked for.

This traversal ends below every graph of children, cyclic ones included, and yields the walks of the
input's nodes one behind the other.  A walk is the pre-order listing of what is at and below a node,
cut at the first node on the last level that has children.
-/

namespace NodeQuery

variable {Node : Type}

namespace Provider

/-- A path of the given number of child edges leads from one node to the other. -/
inductive Descends (provider : Provider Node) : Nat → Node → Node → Prop where
  | here (node : Node) : Descends provider 0 node node
  | further {levels : Nat} {node child target : Node} (edge : provider.IsChild node child)
      (path : Descends provider levels child target) : Descends provider (levels + 1) node target

/-- From the node, some path of the given length ends in a node with children. -/
def IsDeep (provider : Provider Node) (levels : Nat) (node : Node) : Prop :=
  ∃ target, provider.Descends levels node target ∧ provider.childList target ≠ []

variable {provider : Provider Node} {levels : Nat} {node : Node}

theorem isDeep_zero : provider.IsDeep 0 node ↔ provider.childList node ≠ [] := by
  constructor
  · intro deep
    obtain ⟨target, path, children⟩ := deep
    cases path
    exact children
  · intro children
    exact ⟨node, .here node, children⟩

theorem isDeep_succ :
    provider.IsDeep (levels + 1) node ↔
      ∃ child ∈ provider.childList node, provider.IsDeep levels child := by
  constructor
  · intro deep
    obtain ⟨target, path, children⟩ := deep
    cases path with
    | further edge path => exact ⟨_, edge, target, path, children⟩
  · intro below
    obtain ⟨child, edge, target, path, children⟩ := below
    exact ⟨target, .further edge path, children⟩

/-- A node at the end of a path has children as well, unless it is the last one. -/
theorem IsDeep.of_succ (deep : provider.IsDeep (levels + 1) node) :
    provider.IsDeep levels node := by
  induction levels generalizing node with
  | zero =>
      obtain ⟨child, edge, _⟩ := isDeep_succ.mp deep
      exact isDeep_zero.mpr (List.ne_nil_of_mem edge)
  | succ levels ih =>
      obtain ⟨child, edge, below⟩ := isDeep_succ.mp deep
      exact isDeep_succ.mpr ⟨child, edge, ih below⟩

/-- Above the start of a path there is the start of one that is at least as long. -/
theorem IsDeep.of_reaches {target : Node} (deep : provider.IsDeep levels target)
    (path : provider.Reaches node target) : provider.IsDeep levels node := by
  induction path using Relation.ReflTransGen.head_induction_on with
  | refl => exact deep
  | head edge _ ih => exact (isDeep_succ.mpr ⟨_, edge, ih⟩).of_succ

end Provider

namespace Eager

variable {provider : Provider Node} {limit : Nat}

/-! ## Where a walk is cut -/

/-- Listings have an error exactly if some path goes on behind their last level, and no other error
than that of the limit. -/
theorem error_mem_preorder {levels : Nat} {node : Node} {error : Error} :
    .error error ∈ preorder provider limit levels node ↔
      error = .query (.depthLimitExceeded limit) ∧ provider.IsDeep levels node := by
  induction levels generalizing node with
  | zero =>
      rw [preorder, Provider.isDeep_zero]
      by_cases leaf : provider.childList node = []
      · simp [leaf]
      · simp [leaf]
  | succ levels ih =>
      rw [preorder, Provider.isDeep_succ]
      simp only [List.mem_cons, reduceCtorEq, false_or, List.mem_flatMap, ih]
      constructor
      · intro found
        obtain ⟨child, edge, same, deep⟩ := found
        exact ⟨same, child, edge, deep⟩
      · intro found
        obtain ⟨same, child, edge, deep⟩ := found
        exact ⟨child, edge, same, deep⟩

/-- A leaf is listed alike at every depth. -/
theorem preorder_of_leaf {levels : Nat} {node : Node} (leaf : provider.childList node = []) :
    preorder provider limit levels node = [.ok node] := by
  cases levels with
  | zero => simp [preorder, leaf]
  | succ levels => simp [preorder, leaf]

theorem mem_of_mem_untilError {items : List (Item Node)} {item : Item Node}
    (member : item ∈ untilError items) : item ∈ items := by
  induction items with
  | nil => exact member
  | cons first items ih =>
      cases first with
      | error error =>
          rw [untilError, List.mem_singleton] at member
          exact member ▸ List.mem_cons_self
      | ok node =>
          apply List.mem_cons.mpr
          exact (List.mem_cons.mp member).imp_right ih

/-- What is cut off behind the first error has no part in whether there is one. -/
theorem errorFree_walk_iff {node : Node} :
    ErrorFree (walk provider limit node) ↔ ¬ provider.IsDeep limit node := by
  rw [walk, errorFree_untilError]
  constructor
  · intro free deep
    exact free _ (error_mem_preorder.mpr ⟨rfl, deep⟩)
  · intro shallow error member
    exact shallow (error_mem_preorder.mp member).2

theorem error_mem_walk {node : Node} {error : Error} :
    .error error ∈ walk provider limit node ↔
      error = .query (.depthLimitExceeded limit) ∧ provider.IsDeep limit node := by
  constructor
  · intro member
    exact error_mem_preorder.mp (mem_of_mem_untilError member)
  · intro deep
    by_cases member : .error error ∈ walk provider limit node
    · exact member
    · have free : ErrorFree (walk provider limit node) := by
        intro other found
        obtain ⟨same, _⟩ := error_mem_preorder.mp (mem_of_mem_untilError found)
        exact member (deep.1.trans same.symm ▸ found)
      exact absurd deep.2 (errorFree_walk_iff.mp free)

/-! ## Walks as listings that are cut -/

/-- The nodes at most `levels` levels below a node in pre-order, each with its depth; the node
itself stands at `depth`. -/
def outline (provider : Provider Node) : (levels depth : Nat) → Node → List (Nat × Node)
  | 0, depth, node => [(depth, node)]
  | levels + 1, depth, node =>
      (depth, node) :: (provider.childList node).flatMap (outline provider levels (depth + 1))

/-- Whether a node at the given depth stops the walk. -/
def stops (provider : Provider Node) (limit : Nat) (entry : Nat × Node) : Bool :=
  entry.1 == limit && !(provider.childList entry.2).isEmpty

/-- The listing down to the limit, up to the first node that stops it; an error takes the place of
that node and of all behind it. -/
def cutListing (provider : Provider Node) (limit : Nat) (node : Node) : List (Item Node) :=
  let listing := outline provider limit 0 node
  (listing.takeWhile fun entry => !stops provider limit entry).map (fun entry => .ok entry.2) ++
    if listing.any (stops provider limit) then [.error (.query (.depthLimitExceeded limit))] else []

/-- The item that stands for an entry of a listing. -/
def entryItem (provider : Provider Node) (limit : Nat) (entry : Nat × Node) : Item Node :=
  if stops provider limit entry then .error (.query (.depthLimitExceeded limit)) else .ok entry.2

theorem preorder_eq_map_outline {levels depth : Nat} (fits : depth + levels = limit) (node : Node) :
    preorder provider limit levels node =
      (outline provider levels depth node).map (entryItem provider limit) := by
  induction levels generalizing depth node with
  | zero =>
      obtain rfl : depth = limit := fits
      by_cases leaf : (provider.childList node).isEmpty
      · simp [preorder, outline, entryItem, stops, leaf]
      · simp [preorder, outline, entryItem, stops, leaf]
  | succ levels ih =>
      have inner : stops provider limit (depth, node) = false := by
        have above : depth ≠ limit := by omega
        simp [stops, above]
      rw [preorder, outline, List.map_cons, List.map_flatMap, entryItem, inner]
      congr 2
      funext child
      exact ih (by omega) child

theorem untilError_map_entryItem (entries : List (Nat × Node)) :
    untilError (entries.map (entryItem provider limit)) =
      (entries.takeWhile fun entry => !stops provider limit entry).map (fun entry => .ok entry.2) ++
        if entries.any (stops provider limit) then [.error (.query (.depthLimitExceeded limit))]
        else [] := by
  induction entries with
  | nil => rfl
  | cons entry entries ih =>
      cases stopped : stops provider limit entry with
      | true => simp [entryItem, stopped, untilError]
      | false =>
          have kept : entryItem provider limit entry = .ok entry.2 := by simp [entryItem, stopped]
          rw [List.map_cons, kept, untilError, ih, List.any_cons, stopped, Bool.false_or,
            List.takeWhile_cons_of_pos (by simp [stopped])]
          rfl

theorem walk_eq_cutListing (node : Node) :
    walk provider limit node = cutListing provider limit node := by
  rw [walk, preorder_eq_map_outline (Nat.zero_add limit), untilError_map_entryItem, cutListing]

end Eager

/-! ## The traversal -/

/-- A walk in progress. -/
structure Traversal (Node : Type) where
  /-- What is left of the candidates. -/
  input : LazyCell (Item Node)
  /-- What is left of the children on each open level, the innermost level first. -/
  levels : List (List Node)

namespace Traversal

section

variable (provider : Provider Node) (limit : Nat)

/-- Hands out a node and opens its children as the innermost level.  If there are as many levels
already as the limit allows, all levels are dropped and an error takes the place of the node. -/
def descend (node : Node) (traversal : Traversal Node) : Item Node × Traversal Node :=
  match provider.children node with
  | none => (.ok node, traversal)
  | some [] => (.ok node, traversal)
  | some (child :: children) =>
      if limit ≤ traversal.levels.length then
        (.error (.query (.depthLimitExceeded limit)), { traversal with levels := [] })
      else (.ok node, { traversal with levels := (child :: children) :: traversal.levels })

/-- The next item of a walk with the given open levels, and the walk behind it. -/
def nextFrom? (input : LazyCell (Item Node)) :
    (levels : List (List Node)) → Option (Item Node × Traversal Node)
  | (node :: level) :: levels => some (descend provider limit node ⟨input, level :: levels⟩)
  | [] :: levels => nextFrom? input levels
  | [] =>
      match input with
      | .item (.ok node) rest => some (descend provider limit node ⟨rest (), []⟩)
      | .item (.error error) rest => some (.error error, ⟨rest (), []⟩)
      | .done => none

/-- The next item, and the walk behind it. -/
def next? (traversal : Traversal Node) : Option (Item Node × Traversal Node) :=
  nextFrom? provider limit traversal.input traversal.levels

/-- Asked for one item after the other, the traversal yields the given ones and then ends. -/
inductive Yields : Traversal Node → List (Item Node) → Prop where
  | done {traversal : Traversal Node} (ended : traversal.next? provider limit = none) :
      Yields traversal []
  | item {traversal behind : Traversal Node} {item : Item Node} {items : List (Item Node)}
      (pulled : traversal.next? provider limit = some (item, behind))
      (rest : Yields behind items) : Yields traversal (item :: items)

end

variable {provider : Provider Node} {limit : Nat} {input : LazyCell (Item Node)}
variable {traversal : Traversal Node} {items others : List (Item Node)} {levels : List (List Node)}

/-- A traversal does not yield other items when it is run again. -/
theorem Yields.unique (yields : Yields provider limit traversal items)
    (again : Yields provider limit traversal others) : items = others := by
  induction yields generalizing others with
  | done ended =>
      cases again with
      | done => rfl
      | item pulled => simp [ended] at pulled
  | item pulled _ ih =>
      cases again with
      | done ended => simp [ended] at pulled
      | item pulled' rest =>
          rw [pulled, Option.some.injEq, Prod.mk.injEq] at pulled'
          obtain ⟨rfl, rfl⟩ := pulled'
          rw [ih rest]

/-- A level that is used up makes no difference. -/
theorem Yields.pop (yields : Yields provider limit ⟨input, levels⟩ items) :
    Yields provider limit ⟨input, [] :: levels⟩ items := by
  cases yields with
  | done ended => exact .done ended
  | item pulled rest => exact .item pulled rest

/-! ## Handing out a node -/

theorem descend_leaf {node : Node} (leaf : provider.childList node = []) :
    descend provider limit node traversal = (.ok node, traversal) := by
  unfold descend
  split
  case h_1 => rfl
  case h_2 => rfl
  case h_3 children => simp [Provider.childList, children] at leaf

theorem descend_full {node : Node} (parent : provider.childList node ≠ [])
    (full : limit ≤ traversal.levels.length) :
    descend provider limit node traversal =
      (.error (.query (.depthLimitExceeded limit)), ⟨traversal.input, []⟩) := by
  unfold descend
  split
  case h_1 children => simp [Provider.childList, children] at parent
  case h_2 children => simp [Provider.childList, children] at parent
  case h_3 => rw [if_pos full]

theorem descend_open {node : Node} (parent : provider.childList node ≠ [])
    (room : traversal.levels.length < limit) :
    descend provider limit node traversal =
      (.ok node, ⟨traversal.input, provider.childList node :: traversal.levels⟩) := by
  unfold descend
  split
  case h_1 children => simp [Provider.childList, children] at parent
  case h_2 children => simp [Provider.childList, children] at parent
  case h_3 children =>
      rw [if_neg (Nat.not_le.mpr room)]
      simp [Provider.childList, children]

/-- Handing out a node begins the row of items, and the traversal behind it yields the others. -/
def Hands (provider : Provider Node) (limit : Nat) (node : Node) (traversal : Traversal Node)
    (items : List (Item Node)) : Prop :=
  ∃ rest, Yields provider limit (descend provider limit node traversal).2 rest ∧
    (descend provider limit node traversal).1 :: rest = items

theorem Hands.of_descend {node : Node} {behind : Traversal Node} {item : Item Node}
    (handed : descend provider limit node traversal = (item, behind))
    (yields : Yields provider limit behind items) :
    Hands provider limit node traversal (item :: items) :=
  ⟨items, handed ▸ yields, by rw [handed]⟩

/-! ## What is left of a traversal -/

open Eager (followedBy preorder)

theorem Hands.of_leaf {depth : Nat} {node : Node} {next cut : List (Item Node)}
    (leaf : provider.childList node = []) (outside : Yields provider limit traversal next) :
    Hands provider limit node traversal
      (followedBy next cut (preorder provider limit depth node)) := by
  rw [Eager.preorder_of_leaf leaf]
  exact .of_descend (descend_leaf leaf) outside

/-- A level yields the listings of its nodes if each of its nodes is handed out with its own. -/
theorem yields_level {depth : Nat} {next cut : List (Item Node)}
    (hands : ∀ node {around next}, around.length = levels.length + 1 →
      Yields provider limit ⟨input, around⟩ next →
      Hands provider limit node ⟨input, around⟩
        (followedBy next cut (preorder provider limit depth node)))
    (outside : Yields provider limit ⟨input, levels⟩ next) (level : List Node) :
    Yields provider limit ⟨input, level :: levels⟩
      (followedBy next cut (level.flatMap (preorder provider limit depth))) := by
  induction level with
  | nil => exact outside.pop
  | cons node level ih =>
      rw [List.flatMap_cons, Eager.followedBy_append]
      obtain ⟨rest, yields, same⟩ := hands node rfl ih
      rw [← same]
      exact .item rfl yields

/-- A node is handed out with its listing, as deep as there is room for further levels: behind it
the levels around it go on or, if there is an error, the rest of the input.  The induction is on the
room; the children of the node are one more level and leave less of it. -/
theorem hands_preorder {depth : Nat} (room : levels.length + depth = limit)
    {next cut : List (Item Node)} (outside : Yields provider limit ⟨input, levels⟩ next)
    (dropped : Yields provider limit ⟨input, []⟩ cut) (node : Node) :
    Hands provider limit node ⟨input, levels⟩
      (followedBy next cut (preorder provider limit depth node)) := by
  induction depth generalizing levels next node with
  | zero =>
      by_cases leaf : provider.childList node = []
      · exact .of_leaf leaf outside
      · have listed : preorder provider limit 0 node =
            [.error (.query (.depthLimitExceeded limit))] := by simp [preorder, leaf]
        rw [listed]
        exact .of_descend (descend_full leaf (Nat.le_of_eq room.symm)) dropped
  | succ depth ih =>
      by_cases leaf : provider.childList node = []
      · exact .of_leaf leaf outside
      · have free : levels.length < limit := by omega
        apply Hands.of_descend (descend_open leaf free)
        apply yields_level _ outside
        intro child around next length outside
        exact ih (by omega) outside child

/-- Without open levels, a traversal yields the walks of what is left of the input. -/
theorem yields_walks (input : LazyCell (Item Node)) :
    Yields provider limit ⟨input, []⟩
      (Eager.replaceNodes (Eager.walk provider limit) input.toList) := by
  induction input with
  | done => exact .done rfl
  | item value rest ih =>
      cases value with
      | error error => exact .item rfl (ih ())
      | ok node =>
          have room : ([] : List (List Node)).length + limit = limit := Nat.zero_add limit
          obtain ⟨behind, yields, same⟩ := hands_preorder room (ih ()) (ih ()) node
          rw [Eager.followedBy_self] at same
          have row : Eager.replaceNodes (Eager.walk provider limit)
              (LazyCell.item (.ok node) rest).toList = _ := same.symm
          rw [row]
          exact .item rfl yields

end Traversal

/-- The descendant step replaces each node of its input by the listing of what is at and below the
node, cut at the first node on the last level that has children, and passes on errors.  The
traversal with a stack yields just these items and ends, whatever the graph of children.  A listing
has an error exactly if some path of as many child edges as the limit allows ends in a node with
children, and the error is that of the limit. -/
theorem descendants_yield_cut_listings (provider : Provider Node) (limit : Nat)
    (candidates : Candidates Node) :
    let walked := Eager.replaceNodes (Eager.cutListing provider limit) candidates.toList
    (candidates.descendants provider limit).toList = walked ∧
      (∀ items, Traversal.Yields provider limit ⟨candidates.pull (), []⟩ items ↔ items = walked) ∧
      ∀ node error, .error error ∈ Eager.cutListing provider limit node ↔
        error = .query (.depthLimitExceeded limit) ∧ provider.IsDeep limit node := by
  have listings : Eager.cutListing provider limit = Eager.walk provider limit :=
    funext fun node => (Eager.walk_eq_cutListing node).symm
  intro walked
  have yields : Traversal.Yields provider limit ⟨candidates.pull (), []⟩ walked := by
    simp only [walked, listings]
    exact Traversal.yields_walks (candidates.pull ())
  refine ⟨?_, ?_, ?_⟩
  · rw [Candidates.toList_descendants, ← listings]
  · intro items
    constructor
    · intro others
      exact others.unique yields
    · intro same
      exact same ▸ yields
  · intro node error
    rw [listings]
    exact Eager.error_mem_walk

/-- The walk around a ring of two nodes ends at the limit, and the input goes on behind it. -/
example :
    let ring : NodeModel Nat Nat := { key := id, children := fun
      | 0 => some [2, 1]
      | 1 => some [0]
      | _ => none }
    let cut : Item Nat := .error (.query (.depthLimitExceeded 2))
    (Candidates.descendants ring.hooks 2 (.ofList [.ok 0, .ok 2])).toList =
      [.ok 0, .ok 2, .ok 1, cut, .ok 2] := by
  rfl

end NodeQuery
