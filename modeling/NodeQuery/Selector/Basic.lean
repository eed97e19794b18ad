/-!
# Selectors

A selector is a list of alternatives, separated by commas in its text.  Each alternative is a
group: a row of tests on one node (a step) or several steps with a combinator between each two.
The printed form of a selector is its normal form.
-/

namespace NodeQuery

/-- How the node of one step is reached from the node of the step before it. -/
inductive Combinator where
  /-- Any number of child edges, written as a blank. -/
  | descendant
  /-- Exactly one child edge, written `>`. -/
  | child
  /-- A later sibling, written `~`. -/
  | sibling
  /-- The next sibling, written `+`. -/
  | adjacent
  deriving Repr, DecidableEq, Inhabited

/-- The character that stands for a combinator. -/
def Combinator.symbol : Combinator → String
  | .descendant => " "
  | .child => ">"
  | .sibling => "~"
  | .adjacent => "+"

/-- The combinator as it is printed between two steps. -/
def Combinator.text : Combinator → String
  | .descendant => " "
  | link => " " ++ link.symbol ++ " "

/-- One test or one combinator of a group. -/
inductive Operation where
  /-- `*`: every node. -/
  | any
  /-- `name`: the node's tag. -/
  | tag (name : String)
  /-- `.name`: a class of the node. -/
  | class (name : String)
  /-- `#name`: the node's id. -/
  | id (name : String)
  /-- `[body]`: a predicate, its body kept as written. -/
  | predicate (body : String)
  /-- `:name`: a transform of the stream of candidates. -/
  | pseudo (name : String)
  /-- `:name(args)`: a transform with arguments, kept as written. -/
  | function (name : String) (args : String)
  /-- What separates two steps. -/
  | combinator (link : Combinator)
  deriving Repr, DecidableEq, Inhabited

namespace Operation

/-- The symbol of a combinator; the tests have none. -/
def symbol? : Operation → Option String
  | .combinator link => some link.symbol
  | _ => none

/-- Whether the operation separates two steps. -/
def isCombinator (operation : Operation) : Bool :=
  operation.symbol?.isSome

/-- The operation as it is written in a selector. -/
def text : Operation → String
  | .any => "*"
  | .tag name => name
  | .class name => "." ++ name
  | .id name => "#" ++ name
  | .predicate body => "[" ++ body ++ "]"
  | .pseudo name => ":" ++ name
  | .function name args => ":" ++ name ++ "(" ++ args ++ ")"
  | .combinator link => link.text

end Operation

/-- One alternative of a selector: its operations in the order of the text. -/
structure Group where
  operations : List Operation
  deriving Repr, DecidableEq, Inhabited

/-- The operations of a group, one behind the other. -/
def Group.text (group : Group) : String :=
  String.join (group.operations.map Operation.text)

/-- The alternatives of a selector in the order of the text, which decides the order of results. -/
structure Selector where
  groups : List Group
  deriving Repr, DecidableEq, Inhabited

/-- The groups of a selector, with a comma and a blank between each two. -/
def Selector.text (selector : Selector) : String :=
  ", ".intercalate (selector.groups.map Group.text)

end NodeQuery
