import NodeQuery.Query.Registry
import NodeQuery.Selector.Parser

/-!
# Programs

A program is a selector with its predicates read and its combinators turned into the moves that
they stand for.  It does not depend on the nodes that it will be run on.
-/

namespace NodeQuery

/-- One executable step of a group. -/
inductive Step where
  | any
  | tag (name : String)
  | class (name : String)
  | id (name : String)
  | predicate (body : Predicate.Compiled)
  | pseudo (name : String)
  | function (name : String) (args : String)
  /-- To each node and everything below it. -/
  | descendants
  /-- To the children of each node. -/
  | children
  /-- A combinator that cannot be run. -/
  | unsupported (link : Combinator)

/-- The step of an operation; predicates may nest `nesting` levels deep. -/
def Step.ofOperation (nesting : Nat) : Operation → Step
  | .any => .any
  | .tag name => .tag name
  | .class name => .class name
  | .id name => .id name
  | .predicate body => .predicate (.ofBody body nesting)
  | .pseudo name => .pseudo name
  | .function name args => .function name args
  | .combinator .descendant => .descendants
  | .combinator .child => .children
  | .combinator link => .unsupported link

/-- A compiled selector. -/
structure Program where
  /-- The text that was compiled. -/
  source : String
  selector : Selector
  /-- The steps of each group. -/
  groups : List (List Step)

namespace Program

/-- The program of a selector. -/
def ofSelector (source : String) (selector : Selector) (nesting : Nat) : Program where
  source := source
  selector := selector
  groups := selector.groups.map fun group => group.operations.map (Step.ofOperation nesting)

/-- Compiles a selector text.  A predicate that cannot be read is no error yet. -/
def compile (source : String) (nesting : Nat) : Except Selector.SyntaxError Program := do
  let selector ← Selector.parse source
  .ok (ofSelector source selector nesting)

/-- An operation, spelled out. -/
def operationDescription : Operation → String
  | .any => "Any"
  | .tag name => "Tag(" ++ Quoted.encode name ++ ")"
  | .class name => "Class(" ++ Quoted.encode name ++ ")"
  | .id name => "Id(" ++ Quoted.encode name ++ ")"
  | .predicate body => "Predicate(" ++ Quoted.encode body ++ ")"
  | .pseudo name => "Pseudo(" ++ Quoted.encode name ++ ")"
  | .function name args =>
      "Function \x7b name: " ++ Quoted.encode name ++ ", args: " ++ Quoted.encode args ++ " \x7d"
  | .combinator .descendant => "Child"
  | .combinator .child => "ChildDirect"
  | .combinator .sibling => "Sibling"
  | .combinator .adjacent => "SiblingDirect"

/-- A group, spelled out. -/
def groupDescription (group : Group) : String :=
  "Group \x7b operations: [" ++ ", ".intercalate (group.operations.map operationDescription) ++
    "] \x7d"

/-- The program's source and selector, spelled out. -/
def describe (program : Program) : String :=
  "Program \x7b source: " ++ Quoted.encode program.source ++
    ", selector: Selector \x7b groups: [" ++
    ", ".intercalate (program.selector.groups.map groupDescription) ++ "] \x7d, .. \x7d"

end Program

end NodeQuery
