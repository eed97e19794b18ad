import NodeQuery.Selector.Basic

/-!
# The steps of a group

A group is a row of operations in which each combinator separates two steps.  `Steps` is the same
row with the steps made visible.  Every row of operations can be cut in this way; in one that is no
sensible group some steps are empty.
-/

namespace NodeQuery

/-- The first step of a group, and each further one with the combinator in front of it. -/
structure Steps where
  first : List Operation
  further : List (Combinator × List Operation)
  deriving Repr, DecidableEq, Inhabited

namespace Steps

/-- Puts one more operation in front. -/
def cons (operation : Operation) (steps : Steps) : Steps :=
  match operation with
  | .combinator link => ⟨[], (link, steps.first) :: steps.further⟩
  | test => ⟨test :: steps.first, steps.further⟩

/-- Cuts a row of operations at its combinators. -/
def ofOperations : List Operation → Steps
  | [] => ⟨[], []⟩
  | operation :: operations => cons operation (ofOperations operations)

/-- All steps, without the combinators. -/
def all (steps : Steps) : List (List Operation) :=
  steps.first :: steps.further.map Prod.snd

/-- The row of operations that the steps were cut from. -/
def operations (steps : Steps) : List Operation :=
  steps.first ++ steps.further.flatMap fun (link, step) => .combinator link :: step

@[simp] theorem cons_combinator (link : Combinator) (steps : Steps) :
    cons (.combinator link) steps = ⟨[], (link, steps.first) :: steps.further⟩ := rfl

@[simp] theorem operations_cons (operation : Operation) (steps : Steps) :
    (cons operation steps).operations = operation :: steps.operations := by
  cases operation with
  | combinator link => simp [operations]
  | _ => simp [cons, operations]

/-- Nothing is lost when a row is cut into steps. -/
@[simp] theorem operations_ofOperations (row : List Operation) :
    (ofOperations row).operations = row := by
  induction row with
  | nil => rfl
  | cons operation row ih => rw [ofOperations, operations_cons, ih]

end Steps

/-- The steps of a group. -/
def Group.steps (group : Group) : Steps := .ofOperations group.operations

end NodeQuery
