import NodeQuery.Node.Model
import Std.Data.HashSet

/-!
# Results

The nodes that a query has found, in the order in which they were found, without a second node of
the same key.
-/

namespace NodeQuery

/-- Nodes in the order of their insertion, no two with the same key. -/
structure ResultSet (Node : Type) (Key : Type) [BEq Key] [Hashable Key] where
  /-- The keys of the nodes. -/
  seen : Std.HashSet Key
  /-- The nodes, the latest first. -/
  nodes : List Node

namespace ResultSet

variable {Node Key : Type} [BEq Key] [Hashable Key]

def empty : ResultSet Node Key := ⟨{}, []⟩

/-- Adds a node, unless one with the same key is there. -/
def insert (results : ResultSet Node Key) (key : Key) (node : Node) : ResultSet Node Key :=
  if results.seen.contains key then results
  else ⟨results.seen.insert key, node :: results.nodes⟩

/-- The nodes in the order of their insertion. -/
def toList (results : ResultSet Node Key) : List Node := results.nodes.reverse

end ResultSet

end NodeQuery
