import NodeQuery.Node.Model

/-!
# JSON documents as nodes

Arrays and objects have their elements and members as children; all else is a leaf.  An object's
tag is its member `name` if that is a string, and its attributes are its members.  Scalars with
equal values are one node in results; arrays and objects are told apart by where they stand.
-/

namespace NodeQuery

/-- A JSON document.  Integers and floats are different numbers; the members of an object have
different names and keep their order. -/
inductive Document where
  | null
  | bool (value : Bool)
  | int (value : Int)
  | float (value : Float)
  | string (value : String)
  | array (items : List Document)
  | object (members : List (String × Document))
  deriving Inhabited

namespace Document

mutual

/-- The value that predicates compare.  Integers beyond 64 bits become the nearest double. -/
def toValue : Document → Value
  | .null => .null
  | .bool value => .bool value
  | .int value =>
      if -Int.pow 2 63 ≤ value ∧ value < Int.pow 2 63 then .int (.ofInt value)
      else .float (.ofInt value)
  | .float value => .float value
  | .string value => .string value
  | .array items => .list (toValues items)
  | .object members => .map (toEntries members)

def toValues : List Document → List Value
  | [] => []
  | item :: items => toValue item :: toValues items

def toEntries : List (String × Document) → List (String × Value)
  | [] => []
  | (name, value) :: members => (name, toValue value) :: toEntries members

end

/-- `null`, `false`, zero and whatever is empty are false; all else is true. -/
def isTruthy : Document → Bool
  | .null => false
  | .bool value => value
  | .int value => value != 0
  | .float value => value != 0.0
  | .string value => !value.isEmpty
  | .array items => !items.isEmpty
  | .object members => !members.isEmpty

end Document

/-- A part of a document, and the positions that lead to it from the outside. -/
structure DocumentNode where
  path : List Nat
  content : Document
  deriving Inhabited

namespace DocumentNode

/-- What tells nodes of documents apart in results. -/
inductive Key where
  | null
  | bool (value : Bool)
  | int (value : Int)
  /-- The bit pattern of a float, zero having only one. -/
  | float (bits : UInt64)
  | string (value : String)
  /-- Where an array or object stands. -/
  | place (path : List Nat)
  deriving Repr, DecidableEq, Hashable

def key (node : DocumentNode) : Key :=
  match node.content with
  | .null => .null
  | .bool value => .bool value
  | .int value => .int value
  | .float value => .float (if value == 0.0 then (0.0 : Float).toBits else value.toBits)
  | .string value => .string value
  | .array _ => .place node.path
  | .object _ => .place node.path

/-- The part of a node at a position. -/
def part (node : DocumentNode) (content : Document) (position : Nat) : DocumentNode :=
  ⟨node.path ++ [position], content⟩

def children (node : DocumentNode) : Option (List DocumentNode) :=
  match node.content with
  | .array items => some (items.mapIdx fun position item => node.part item position)
  | .object members =>
      some (members.mapIdx fun position (_, value) => node.part value position)
  | _ => none

def attr (node : DocumentNode) (name : String) : Option DocumentNode :=
  match node.content with
  | .object members => do
      let position ← members.findIdx? fun (member, _) => member == name
      let (_, value) ← members[position]?
      some (node.part value position)
  | _ => none

def tag (node : DocumentNode) : Option String :=
  match node.attr "name" with
  | some ⟨_, .string name⟩ => some name
  | _ => none

/-- JSON documents as nodes. -/
def model : NodeModel DocumentNode Key where
  key := key
  tag := tag
  children := children
  attr := attr
  value := fun node => node.content.toValue
  isTruthy := fun node => node.content.isTruthy

end DocumentNode

end NodeQuery
