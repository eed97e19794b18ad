import NodeQuery.Value.Basic

/-!
# Node models

The engine knows nothing of the objects it searches.  A `NodeModel` tells it how to ask them: for
their identity, tag, children, id, classes, attributes, value and truth.  All but the identity have
defaults.  A `Provider` is the part of a model that selector steps use; `Overrides` replace any of
its answers.
-/

namespace NodeQuery

/-- What selector steps ask a node for. -/
structure Provider (Node : Type) where
  tag : Node → Option String
  /-- The children in order; a leaf may have none at all. -/
  children : Node → Option (List Node)
  id : Node → Option String
  hasClass : Node → String → Bool
  /-- The attribute of the given name, which is a node again. -/
  attr : Node → String → Option Node

/-- The attributes of a path, followed one after the other. -/
def Provider.resolve {Node : Type} (provider : Provider Node) :
    Node → (path : List String) → Option Node
  | node, [] => some node
  | node, name :: path =>
      match provider.attr node name with
      | some next => provider.resolve next path
      | none => none

/-- What a kind of node can answer.  Nodes with equal keys count as one node in results. -/
structure NodeModel (Node : Type) (Key : Type) where
  key : Node → Key
  tag : Node → Option String := fun _ => none
  children : Node → Option (List Node) := fun _ => none
  id : Node → Option String := fun _ => none
  attr : Node → String → Option Node := fun _ _ => none
  /-- The value that predicates compare. -/
  value : Node → Value := fun _ => .null
  isTruthy : Node → Bool := fun node => (value node).isTruthy
  /-- By default, a node has the classes that name a true attribute. -/
  hasClass : Node → String → Bool := fun node name => (attr node name).any isTruthy

/-- The answers of the nodes themselves. -/
def NodeModel.hooks {Node Key : Type} (model : NodeModel Node Key) : Provider Node where
  tag := model.tag
  children := model.children
  id := model.id
  hasClass := model.hasClass
  attr := model.attr

/-- Answers given in place of the nodes' own. -/
structure Overrides (Node : Type) where
  tag : Option (Node → Option String) := none
  children : Option (Node → Option (List Node)) := none
  id : Option (Node → Option String) := none
  hasClass : Option (Node → String → Bool) := none
  attr : Option (Node → String → Option Node) := none

namespace Overrides

variable {Node Key : Type}

/-- The answers of the nodes with some of them replaced.  Replaced attributes decide about classes
too, unless classes are replaced themselves. -/
def provider (overrides : Overrides Node) (model : NodeModel Node Key) : Provider Node where
  tag := overrides.tag.getD model.tag
  children := overrides.children.getD model.children
  id := overrides.id.getD model.id
  hasClass :=
    match overrides.hasClass, overrides.attr with
    | some hasClass, _ => hasClass
    | none, some attr => fun node name => (attr node name).any model.isTruthy
    | none, none => model.hasClass
  attr := overrides.attr.getD model.attr

/-- Which answers are replaced. -/
def describe (overrides : Overrides Node) : String :=
  let field (name : String) (isSet : Bool) : String :=
    name ++ ": " ++ if isSet then "true" else "false"
  "Overrides \x7b " ++ ", ".intercalate
    [field "tag" overrides.tag.isSome, field "children" overrides.children.isSome,
      field "id" overrides.id.isSome, field "has_class" overrides.hasClass.isSome,
      field "attr" overrides.attr.isSome] ++ " \x7d"

end Overrides

/-- Where a selector takes its answers from. -/
inductive Binding (Node : Type) where
  /-- The nodes' own answers. -/
  | hooks
  | overrides (replaced : Overrides Node)

namespace Binding

variable {Node Key : Type}

def provider (model : NodeModel Node Key) : Binding Node → Provider Node
  | .hooks => model.hooks
  | .overrides replaced => replaced.provider model

def describe : Binding Node → String
  | .hooks => "Hooks"
  | .overrides replaced => replaced.describe

end Binding

end NodeQuery
