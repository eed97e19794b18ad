import NodeQuery.Regex.Automaton
import Std.Data.HashMap

/-!
# Drafts of automata

An automaton is drafted state by state.  Where a state leads is filled in once it is known.  A
draft has a size in bytes, and no draft may grow beyond a limit.  When a draft is finished, states
that only lead on to one other state are left out.
-/

namespace NodeQuery.Regex

/-- A state of a draft. -/
inductive DraftNode where
  /-- Leads on to one state. -/
  | link (next : Nat)
  | range (edge : Edge)
  | sparse (edges : List Edge)
  | look (place : Look) (next : Nat)
  /-- Leads on to each of the states; `reversed` says that the last goes first. -/
  | union (alternates : Array Nat) (reversed : Bool)
  | accept
  deriving Inhabited

/-- The bytes that a state takes beyond those that every state takes. -/
def DraftNode.extraSize : DraftNode → Nat
  | .sparse edges => 8 * edges.length
  | .union alternates _ => 4 * alternates.size
  | _ => 0

/-- The states drafted so far. -/
structure Draft where
  nodes : Array DraftNode
  /-- The sum of the extra sizes of the states. -/
  extra : Nat

namespace Draft

/-- No state yet. -/
def empty : Draft := ⟨#[], 0⟩

/-- The size of a draft in bytes. -/
def size (draft : Draft) : Nat := 32 * draft.nodes.size + draft.extra

/-- The largest size that a draft may have. -/
def sizeLimit : Nat := Nat.pow 2 20

/-- The number of the next state, and the draft with that state. -/
def push (node : DraftNode) : Draft → Nat × Draft
  | ⟨nodes, extra⟩ => (nodes.size, ⟨nodes.push node, extra + node.extraSize⟩)

/-- Lets a state lead to another: one more if it is a union. -/
def connect (state target : Nat) : Draft → Draft
  | ⟨nodes, extra⟩ =>
      match nodes[state]? with
      | some (.link _) => ⟨nodes.set! state (.link target), extra⟩
      | some (.range edge) => ⟨nodes.set! state (.range { edge with target }), extra⟩
      | some (.look place _) => ⟨nodes.set! state (.look place target), extra⟩
      | some (.union alternates reversed) =>
          ⟨nodes.set! state (.union (alternates.push target) reversed), extra + 4⟩
      | _ => ⟨nodes, extra⟩

end Draft

/-- Work on a draft; there is no result if the draft gets too large. -/
abbrev Drafting := StateT Draft Option

namespace Drafting

/-- Fails if the draft is too large. -/
def checkSize : Drafting Unit := do
  if Draft.sizeLimit < (← get).size then failure

/-- Adds a state. -/
def add (node : DraftNode) : Drafting Nat := do
  let state ← modifyGet (Draft.push node)
  checkSize
  return state

/-- Lets a state lead to another. -/
def connect (state target : Nat) : Drafting Unit := do
  modify (Draft.connect state target)
  checkSize

/-- Adds a state that leads on to one other, which is still to be given. -/
def addLink : Drafting Nat := add (.link 0)

/-- Adds a state that leads on to several others, which are still to be given. -/
def addUnion (reversed : Bool) : Drafting Nat := add (.union #[] reversed)

end Drafting

namespace Draft

/-- The only state that a state leads on to. -/
def onward? : DraftNode → Option Nat
  | .link next => some next
  | .union #[next] _ => some next
  | _ => none

/-- Passes over states that lead on to one other. -/
def resolve (nodes : Array DraftNode) : Nat → Nat → Nat
  | 0, state => state
  | fuel + 1, state =>
      match nodes[state]?.bind onward? with
      | some next => resolve nodes fuel next
      | none => state

/-- How many of the states in front of each state are kept. -/
def ranks (nodes : Array DraftNode) : Array Nat :=
  (nodes.foldl
    (fun (ranks, rank) node =>
      (ranks.push rank, if (onward? node).isSome then rank else rank + 1))
    ((#[] : Array Nat), 0)).1

/-- The automaton that a draft describes. -/
def finish (draft : Draft) (start entry : Nat) : Automaton :=
  let ranks := ranks draft.nodes
  let place (state : Nat) : Nat := ranks.getD (resolve draft.nodes draft.nodes.size state) 0
  let edge (edge : Edge) : Edge := { edge with target := place edge.target }
  let kept? (node : DraftNode) : Option Node :=
    if (onward? node).isSome then none
    else
      match node with
      | .link _ => none
      | .range only => some (.branch [edge only])
      | .sparse [] => some .fail
      | .sparse edges => some (.branch (edges.map edge))
      | .look condition next => some (.look condition (place next))
      | .union alternates reversed =>
          let alternates := alternates.toList.map place
          if alternates.isEmpty then some .fail
          else some (.union (if reversed then alternates.reverse else alternates))
      | .accept => some .accept
  ⟨draft.nodes.filterMap kept?, place start, place entry⟩

end Draft

end NodeQuery.Regex
