import NodeQuery.Decimal.Text
import NodeQuery.Query.Candidates
import NodeQuery.Text.Blank
import NodeQuery.Text.Quoted

/-!
# Named transforms

The steps `:name` and `:name(args)` apply a transform to the whole sequence of candidates.  A
registry gives the transforms their names.
-/

namespace NodeQuery

/-- Bounds on compiling and running selectors. -/
structure Limits where
  /-- How many levels below a candidate a walk may reach. -/
  maxDepth : Nat := 4096
  /-- How deep predicates may nest. -/
  predicateNesting : Nat := 64
  deriving Repr, DecidableEq, Inhabited

/-- What a transform may consult besides its input. -/
structure Context (Node : Type) where
  provider : Provider Node
  limits : Limits

/-- A transform without arguments. -/
abbrev Pseudo (Node : Type) := Context Node → Candidates Node → Candidates Node

/-- A transform with arguments, which it may reject before it looks at any candidate. -/
abbrev Function (Node : Type) :=
  Context Node → (args : String) → Candidates Node → Except QueryError (Candidates Node)

/-- The transforms by their names. -/
structure Registry (Node : Type) where
  pseudos : List (String × Pseudo Node)
  functions : List (String × Function Node)

namespace Registry

variable {Node : Type}

/-- No transforms at all. -/
def empty : Registry Node := ⟨[], []⟩

/-- Adds a named thing to a list, in place of the one of the same name if there is one. -/
def put {α : Type} (name : String) (value : α) : List (String × α) → List (String × α)
  | [] => [(name, value)]
  | (other, old) :: rest =>
      if other = name then (name, value) :: rest else (other, old) :: put name value rest

/-- Adds or replaces a transform without arguments. -/
def registerPseudo (registry : Registry Node) (name : String) (pseudo : Pseudo Node) :
    Registry Node :=
  { registry with pseudos := put name pseudo registry.pseudos }

/-- Adds or replaces a transform with arguments. -/
def registerFunction (registry : Registry Node) (name : String) (function : Function Node) :
    Registry Node :=
  { registry with functions := put name function registry.functions }

def pseudo? (registry : Registry Node) (name : String) : Option (Pseudo Node) :=
  registry.pseudos.lookup name

def function? (registry : Registry Node) (name : String) : Option (Function Node) :=
  registry.functions.lookup name

/-- `:first`: the first item. -/
def first : Pseudo Node := fun _ candidates => candidates.take 1

/-- `:last`: the last node. -/
def last : Pseudo Node := fun _ candidates => candidates.last

/-- The 64-bit integer that a text denotes. -/
def position? (args : String) : Option Int :=
  match Decimal.integer? true (Text.trim args.toList) with
  | some position =>
      if -Int.pow 2 63 ≤ position ∧ position < Int.pow 2 63 then some position else none
  | none => none

/-- `:nth-child(n)`: the node at position `n`, counted from zero. -/
def nthChild : Function Node := fun _ args candidates =>
  match position? args with
  | some position => .ok (if position < 0 then .empty else candidates.nth position.toNat)
  | none => .error (.invalidArgument "nth-child" args "expected an integer")

/-- `:attr(name)`: the attribute `name` of each candidate that has it. -/
def attr : Function Node := fun context args candidates =>
  let name := String.ofList (Text.trim args.toList)
  if name = "" then .error (.invalidArgument "attr" args "expected an attribute name")
  else .ok (candidates.mapNodes? fun node => context.provider.attr node name)

/-- The transforms that every selector may use. -/
def builtin : Registry Node where
  pseudos := [("first", first), ("last", last)]
  functions := [("nth-child", nthChild), ("attr", attr)]

/-- Names in their order, each between quotes, in brackets. -/
def nameList {α : Type} (entries : List (String × α)) : String :=
  let names := (entries.map Prod.fst).mergeSort fun left right => decide (left ≤ right)
  "[" ++ ", ".intercalate (names.map Quoted.encode) ++ "]"

/-- The names of all transforms. -/
def describe (registry : Registry Node) : String :=
  "Registry \x7b pseudos: " ++ nameList registry.pseudos ++ ", functions: " ++
    nameList registry.functions ++ " \x7d"

end Registry

end NodeQuery
