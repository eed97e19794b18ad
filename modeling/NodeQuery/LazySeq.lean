/-!
# Lazy sequences

A query computes its results on demand: an element that no later step asks for is never computed,
and neither is an error that it would have been.  A `LazySeq` is a finite sequence of that kind;
`toList` gives the elements that it would yield if all were asked for.
-/

namespace NodeQuery

universe u v

/-- What asking a sequence for its next element yields. -/
inductive LazyCell (α : Type u) where
  | done
  | item (value : α) (rest : Unit → LazyCell α)

namespace LazyCell

variable {α : Type u} {β : Type v}

/-- All elements, in order. -/
def toList : LazyCell α → List α
  | .done => []
  | .item value rest => value :: toList (rest ())

/-- The elements of a sequence in front of another. -/
def append (next : Unit → LazyCell α) : LazyCell α → LazyCell α
  | .done => next ()
  | .item value rest => .item value fun _ => append next (rest ())

/-- The elements to which `f` gives a result. -/
def filterMap (f : α → Option β) : LazyCell α → LazyCell β
  | .done => .done
  | .item value rest =>
      match f value with
      | some image => .item image fun _ => filterMap f (rest ())
      | none => filterMap f (rest ())

/-- The elements of a list in front of a sequence. -/
def ofListThen (next : Unit → LazyCell α) : List α → LazyCell α
  | [] => next ()
  | value :: values => .item value fun _ => ofListThen next values

/-- Replaces each element by the elements of a list. -/
def flatMap (f : α → List β) : LazyCell α → LazyCell β
  | .done => .done
  | .item value rest => ofListThen (fun _ => flatMap f (rest ())) (f value)

/-- The cell behind the first `count` elements. -/
def drop : (count : Nat) → LazyCell α → LazyCell α
  | 0, cell => cell
  | _ + 1, .done => .done
  | count + 1, .item _ rest => drop count (rest ())

/-- Keeps every second element, the first of all if `keep` says so. -/
def everyOther (keep : Bool) : LazyCell α → LazyCell α
  | .done => .done
  | .item value rest =>
      if keep then .item value fun _ => everyOther false (rest ())
      else everyOther true (rest ())

end LazyCell

/-- A finite sequence that is computed on demand. -/
structure LazySeq (α : Type u) where
  pull : Unit → LazyCell α

namespace LazySeq

variable {α : Type u} {β : Type v}

/-- All elements, in order. -/
def toList (sequence : LazySeq α) : List α := (sequence.pull ()).toList

/-- The sequence of no elements. -/
def empty : LazySeq α := ⟨fun _ => .done⟩

/-- The elements of a list. -/
def ofList (values : List α) : LazySeq α := ⟨fun _ => .ofListThen (fun _ => .done) values⟩

/-- The sequence of one element. -/
def singleton (value : α) : LazySeq α := ofList [value]

/-- A sequence that is found only when it is asked for. -/
def delay (sequence : Unit → LazySeq α) : LazySeq α := ⟨fun _ => (sequence ()).pull ()⟩

/-- A sequence whose first cell is a function of another's. -/
def lift (f : LazyCell α → LazyCell β) (sequence : LazySeq α) : LazySeq β :=
  ⟨fun _ => f (sequence.pull ())⟩

/-- The elements to which `f` gives a result. -/
def filterMap (f : α → Option β) : LazySeq α → LazySeq β := lift (LazyCell.filterMap f)

/-- The elements that `keep` accepts. -/
def filter (keep : α → Bool) : LazySeq α → LazySeq α :=
  filterMap fun value => if keep value then some value else none

/-- Replaces each element by the elements of a list. -/
def flatMap (f : α → List β) : LazySeq α → LazySeq β := lift (LazyCell.flatMap f)

/-- The first `count` elements; no further one is asked for. -/
def take : (count : Nat) → LazySeq α → LazySeq α
  | 0, _ => empty
  | count + 1, sequence =>
      ⟨fun _ =>
        match sequence.pull () with
        | .done => .done
        | .item value rest => .item value (take count ⟨rest⟩).pull⟩

/-- The elements behind the first `count`. -/
def drop (count : Nat) : LazySeq α → LazySeq α := lift (LazyCell.drop count)

/-- The first element and every second one behind it. -/
def everyOther : LazySeq α → LazySeq α := lift (LazyCell.everyOther true)

/-- The elements of one sequence, then those of another. -/
def append (left right : LazySeq α) : LazySeq α :=
  lift (LazyCell.append right.pull) left

end LazySeq

end NodeQuery
