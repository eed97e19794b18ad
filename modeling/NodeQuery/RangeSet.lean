/-!
# Sets of numbers as ranges

Character classes and the tables of character properties are sets of code points.  A `RangeSet`
lists the maximal ranges of such a set in increasing order, so equal sets have equal lists.
-/

namespace NodeQuery

/-- The numbers from `first` to `last`, both included. -/
structure NumberRange where
  first : Nat
  last : Nat
  deriving Repr, DecidableEq, Inhabited

/-- A set of numbers as a list of ranges, in increasing order and with gaps between them. -/
structure RangeSet where
  ranges : List NumberRange
  deriving Repr, DecidableEq, Inhabited

namespace RangeSet

/-- The empty set. -/
def empty : RangeSet := ⟨[]⟩

def isEmpty (set : RangeSet) : Bool := set.ranges.isEmpty

/-- Whether a number belongs to a set. -/
def contains (set : RangeSet) (number : Nat) : Bool :=
  set.ranges.any fun range => range.first ≤ number && number ≤ range.last

/-- Joins ranges that meet or overlap; the list has to be in the order of the first numbers. -/
def joined : List NumberRange → List NumberRange
  | [] => []
  | range :: ranges => go range ranges
where
  /-- Extends `range` as long as the next range meets it. -/
  go (range : NumberRange) : List NumberRange → List NumberRange
    | [] => [range]
    | next :: ranges =>
        if next.first ≤ range.last + 1 then
          go ⟨range.first, max range.last next.last⟩ ranges
        else
          range :: go next ranges

/-- The set that a list of ranges covers; a range whose end comes before its start is empty. -/
def ofRanges (ranges : List NumberRange) : RangeSet :=
  let proper := ranges.filter fun range => range.first ≤ range.last
  ⟨joined (proper.mergeSort fun left right => left.first ≤ right.first)⟩

/-- The set with the one range from `first` to `last`. -/
def range (first last : Nat) : RangeSet := ofRanges [⟨first, last⟩]

/-- The set of the listed numbers. -/
def ofCodes (codes : List Nat) : RangeSet :=
  ofRanges (codes.map fun code => ⟨code, code⟩)

/-- The numbers that belong to at least one of two sets. -/
def union (left right : RangeSet) : RangeSet :=
  ofRanges (left.ranges ++ right.ranges)

/-- The numbers up to `last` that do not belong to a set. -/
def complement (set : RangeSet) (last : Nat) : RangeSet :=
  ⟨go 0 set.ranges⟩
where
  /-- The gaps from `next` on. -/
  go (next : Nat) : List NumberRange → List NumberRange
    | [] => if next ≤ last then [⟨next, last⟩] else []
    | range :: ranges =>
        if next < range.first then
          ⟨next, range.first - 1⟩ :: go (range.last + 1) ranges
        else
          go (range.last + 1) ranges

/-- The numbers that belong to both of two sets. -/
def inter (left right : RangeSet) : RangeSet :=
  ⟨go (left.ranges.length + right.ranges.length) left.ranges right.ranges⟩
where
  /-- Walks along both lists; each step leaves one range behind. -/
  go : Nat → List NumberRange → List NumberRange → List NumberRange
    | 0, _, _ => []
    | _, [], _ => []
    | _, _, [] => []
    | fuel + 1, a :: left, b :: right =>
        let common : NumberRange := ⟨max a.first b.first, min a.last b.last⟩
        let rest :=
          if a.last < b.last then go fuel left (b :: right) else go fuel (a :: left) right
        if common.first ≤ common.last then common :: rest else rest

/-- The members of the first set up to `last` that are not in the second. -/
def diff (left right : RangeSet) (last : Nat) : RangeSet :=
  left.inter (right.complement last)

/-- The numbers up to `last` that belong to exactly one of two sets. -/
def symmDiff (left right : RangeSet) (last : Nat) : RangeSet :=
  (left.union right).diff (left.inter right) last

/-- The members of an increasing list of numbers that belong to a set. -/
def restrict (set : RangeSet) (codes : List Nat) : List Nat :=
  go (set.ranges.length + codes.length) set.ranges codes
where
  /-- Walks along both lists; each step leaves one entry behind. -/
  go : Nat → List NumberRange → List Nat → List Nat
    | 0, _, _ => []
    | _, [], _ => []
    | _, _, [] => []
    | fuel + 1, range :: ranges, code :: codes =>
        if range.last < code then go fuel ranges (code :: codes)
        else if code < range.first then go fuel (range :: ranges) codes
        else code :: go fuel (range :: ranges) codes

end RangeSet

end NodeQuery
