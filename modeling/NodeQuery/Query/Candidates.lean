import NodeQuery.LazySeq
import NodeQuery.Node.Model
import NodeQuery.Query.Error

/-!
# Candidates

The steps of a selector pass on a lazy sequence of candidates.  An item is a node or an error; an
error does not end the sequence.  A walk lists a node and everything below it, each node in front
of its children, down to a limited depth.
-/

namespace NodeQuery

/-- A candidate, or an error met in its place. -/
abbrev Item (Node : Type) := Except Error Node

/-- The candidates in front of or behind a step. -/
abbrev Candidates (Node : Type) := LazySeq (Item Node)

namespace Candidates

variable {Node : Type}

/-- Keeps the nodes that `keep` accepts; errors pass. -/
def filterNodes (keep : Node → Bool) : Candidates Node → Candidates Node :=
  LazySeq.filter fun
    | .ok node => keep node
    | .error _ => true

/-- Keeps the nodes for which the test holds and replaces a node whose test fails by the error. -/
def tryFilter (test : Node → Except PredicateError Bool) : Candidates Node → Candidates Node :=
  LazySeq.filterMap fun
    | .ok node =>
        match test node with
        | .ok true => some (.ok node)
        | .ok false => none
        | .error error => some (.error (.predicate error))
    | .error error => some (.error error)

/-- Replaces each node by the nodes of a list; errors pass. -/
def expand (f : Node → List Node) : Candidates Node → Candidates Node :=
  LazySeq.flatMap fun
    | .ok node => (f node).map .ok
    | .error error => [.error error]

/-- Replaces each node by another or drops it; errors pass. -/
def mapNodes? (f : Node → Option Node) : Candidates Node → Candidates Node :=
  LazySeq.filterMap fun
    | .ok node => (f node).map .ok
    | .error error => some (.error error)

/-- The children of each node. -/
def children (provider : Provider Node) : Candidates Node → Candidates Node :=
  expand fun node => (provider.children node).getD []

/-- A node and what is below it, at most `depth` levels deep, in front of what `next` yields.  If a
node at that depth has children, an error takes its place and `cut` goes on instead of `next`. -/
def walkFrom (provider : Provider Node) (limit : Nat) : (depth : Nat) → Node →
    (next cut : Unit → LazyCell (Item Node)) → LazyCell (Item Node)
  | 0, node, next, cut =>
      match provider.children node with
      | some (_ :: _) => .item (.error (.query (.depthLimitExceeded limit))) cut
      | _ => .item (.ok node) next
  | depth + 1, node, next, cut =>
      match provider.children node with
      | some children =>
          .item (.ok node) (children.foldr
            (fun child after => fun _ => walkFrom provider limit depth child after cut) next)
      | none => .item (.ok node) next

/-- Replaces each node of a sequence by its walk; errors pass. -/
def descendCell (provider : Provider Node) (limit : Nat) :
    LazyCell (Item Node) → LazyCell (Item Node)
  | .done => .done
  | .item (.error error) rest => .item (.error error) fun _ => descendCell provider limit (rest ())
  | .item (.ok node) rest =>
      let onward := fun _ => descendCell provider limit (rest ())
      walkFrom provider limit limit node onward onward

/-- Each node and everything below it, down to `limit` levels. -/
def descendants (provider : Provider Node) (limit : Nat) : Candidates Node → Candidates Node :=
  LazySeq.lift (descendCell provider limit)

/-- The last node, or the first error if there is one. -/
def lastFrom (latest : Option Node) : LazyCell (Item Node) → LazyCell (Item Node)
  | .done =>
      match latest with
      | some node => .item (.ok node) fun _ => .done
      | none => .done
  | .item (.error error) _ => .item (.error error) fun _ => .done
  | .item (.ok node) rest => lastFrom (some node) (rest ())

/-- The node in front of which `count` other nodes stand, or an error that stands in front of it. -/
def nthFrom : (count : Nat) → LazyCell (Item Node) → LazyCell (Item Node)
  | _, .done => .done
  | _, .item (.error error) _ => .item (.error error) fun _ => .done
  | 0, .item (.ok node) _ => .item (.ok node) fun _ => .done
  | count + 1, .item (.ok _) rest => nthFrom count (rest ())

/-- The last node, or the first error if there is one. -/
def last : Candidates Node → Candidates Node := LazySeq.lift (lastFrom none)

/-- The node at a position counted from zero, or an error that stands in front of it. -/
def nth (position : Nat) : Candidates Node → Candidates Node := LazySeq.lift (nthFrom position)

end Candidates

end NodeQuery
