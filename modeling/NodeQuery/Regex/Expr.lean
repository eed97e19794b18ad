import NodeQuery.Regex.CharacterClass

/-!
# Regular expressions

An expression is what a pattern means once its flags have been applied.  The functions in front of
the constructors bring expressions into a simple form: no sequence stands directly in a sequence
and no choice directly in a choice, literals that follow each other are one literal, and a choice
between single characters is a set of characters.  The size of an automaton depends on this form.
-/

namespace NodeQuery.Regex

/-- A condition on the place between two bytes. -/
inductive Look where
  | start
  | stop
  | startLine
  | stopLine
  /-- As `startLine`, where `\r\n` ends a line as well. -/
  | startCrlf
  | stopCrlf
  /-- A boundary of words in the sense of Unicode or of ASCII. -/
  | boundary (boundary : Boundary) (unicode : Bool)
  deriving Repr, DecidableEq, Hashable

/-- A regular expression over characters. -/
inductive Expr where
  /-- Matches the empty text. -/
  | empty
  /-- Matches a text that is not empty. -/
  | literal (text : List Char)
  /-- Matches one character of a set, so nothing if the set is empty. -/
  | oneOf (set : RangeSet)
  | look (place : Look)
  /-- Matches `min` to `max` times what `body` matches. -/
  | repetition (min : Nat) (max : Option Nat) (greedy : Bool) (body : Expr)
  | capture (index : Nat) (body : Expr)
  | concat (items : List Expr)
  | alternation (branches : List Expr)
  deriving Repr

namespace Expr

mutual

/-- Whether two expressions are written alike. -/
def same : Expr → Expr → Bool
  | .empty, .empty => true
  | .literal left, .literal right => left == right
  | .oneOf left, .oneOf right => left == right
  | .look left, .look right => left == right
  | .repetition min max greedy body, .repetition min' max' greedy' body' =>
      min == min' && max == max' && greedy == greedy' && same body body'
  | .capture index body, .capture index' body' => index == index' && same body body'
  | .concat items, .concat items' => sameList items items'
  | .alternation branches, .alternation branches' => sameList branches branches'
  | _, _ => false

def sameList : List Expr → List Expr → Bool
  | [], [] => true
  | item :: items, item' :: items' => same item item' && sameList items items'
  | _, _ => false

end

/-! ## Lengths of matches -/

/-- The sum of two lengths, if both are known. -/
def addLengths (left right : Option Nat) : Option Nat := do return (← left) + (← right)

mutual

/-- The number of characters of the shortest match; `none` if nothing matches. -/
def minLength? : Expr → Option Nat
  | .empty => some 0
  | .literal text => some text.length
  | .oneOf set => if set.isEmpty then none else some 1
  | .look _ => some 0
  | .repetition min _ _ body => (minLength? body).map (min * ·)
  | .capture _ body => minLength? body
  | .concat items => minLengthConcat? items
  | .alternation branches => minLengthAlternation? branches

def minLengthConcat? : List Expr → Option Nat
  | [] => some 0
  | item :: items => addLengths (minLength? item) (minLengthConcat? items)

/-- The least of the lengths, if all are known. -/
def minLengthAlternation? : List Expr → Option Nat
  | [] => none
  | [branch] => minLength? branch
  | branch :: branches => do return min (← minLength? branch) (← minLengthAlternation? branches)

end

mutual

/-- The number of characters of the longest match; `none` if there is no such number. -/
def maxLength? : Expr → Option Nat
  | .empty => some 0
  | .literal text => some text.length
  | .oneOf set => if set.isEmpty then none else some 1
  | .look _ => some 0
  | .repetition _ max _ body => do return (← max) * (← maxLength? body)
  | .capture _ body => maxLength? body
  | .concat items => maxLengthConcat? items
  | .alternation branches => maxLengthAlternation? branches

def maxLengthConcat? : List Expr → Option Nat
  | [] => some 0
  | item :: items => addLengths (maxLength? item) (maxLengthConcat? items)

/-- The greatest of the lengths, if all are known. -/
def maxLengthAlternation? : List Expr → Option Nat
  | [] => none
  | [branch] => maxLength? branch
  | branch :: branches => do return max (← maxLength? branch) (← maxLengthAlternation? branches)

end

mutual

/-- Whether every match is seen to begin at the start of the text. -/
def isAnchored : Expr → Bool
  | .look place => place == .start
  | .repetition min _ _ body => 0 < min && isAnchored body
  | .capture _ body => isAnchored body
  | .concat items => isAnchoredConcat items
  | .alternation branches => isAnchoredAlternation branches
  | _ => false

/-- Only items in front of which nothing has been matched count. -/
def isAnchoredConcat : List Expr → Bool
  | [] => false
  | item :: items => isAnchored item || (maxLength? item == some 0 && isAnchoredConcat items)

def isAnchoredAlternation : List Expr → Bool
  | [] => true
  | branch :: branches => isAnchored branch && isAnchoredAlternation branches

end

/-! ## Building expressions -/

/-- Matches nothing. -/
def fail : Expr := .oneOf .empty

/-- Matches one character of a set. -/
def ofSet (set : RangeSet) : Expr :=
  match set.ranges with
  | [⟨first, last⟩] => if first = last then .literal [Char.ofNat first] else .oneOf set
  | _ => .oneOf set

/-- Matches `body` several times.  Where `body` matches the empty text only, once is enough. -/
def ofRepetition (min : Nat) (max : Option Nat) (greedy : Bool) (body : Expr) : Expr :=
  let idle := maxLength? body == some 0
  let min := if idle then Min.min min 1 else min
  let max := if idle then some ((max.map fun max => Min.min max 1).getD 1) else max
  match min, max with
  | 0, some 0 => .empty
  | 1, some 1 => body
  | _, _ => .repetition min max greedy body

/-- Puts an item in front of a sequence in simple form. -/
def consItem : Expr → List Expr → List Expr
  | .empty, items => items
  | .literal text, .literal text' :: items => .literal (text ++ text') :: items
  | item, items => item :: items

/-- The items that an expression brings into a sequence. -/
def items : Expr → List Expr
  | .concat items => items
  | expr => [expr]

/-- Matches expressions one after the other. -/
def ofConcat (exprs : List Expr) : Expr :=
  match (exprs.flatMap items).foldr consItem [] with
  | [] => .empty
  | [item] => item
  | items => .concat items

/-- The branches that an expression brings into a choice. -/
def branches : Expr → List Expr
  | .alternation branches => branches
  | expr => [expr]

/-- The character that is all that an expression matches, if it is a literal. -/
def singleton? : Expr → Option Char
  | .literal [char] => some char
  | _ => none

/-- The set of characters that an expression is. -/
def set? : Expr → Option RangeSet
  | .oneOf set => some set
  | _ => none

/-- How many expressions stand alike at the front of two sequences. -/
def commonLength : List Expr → List Expr → Nat
  | item :: items, item' :: items' => if same item item' then commonLength items items' + 1 else 0
  | _, _ => 0

/-- How many items all branches begin with, if all are sequences. -/
def sharedLength (branches : List Expr) : Nat :=
  match branches with
  | .concat first :: branches =>
      branches.foldl
        (fun length branch =>
          match branch with
          | .concat items => commonLength (first.take length) items
          | _ => 0)
        first.length
  | _ => 0

/-- Matches one of the expressions, where a branch in front wins.  What all branches begin with is
written once in front of them. -/
def ofAlternation (exprs : List Expr) : Expr :=
  simplify exprs.length (exprs.flatMap branches)
where
  /-- Brings branches that are no choices into simple form.  A branch loses items in every round
  behind the first, and a branch that is no sequence ends the rounds. -/
  simplify (fuel : Nat) (branches : List Expr) : Expr :=
    match branches with
    | [] => fail
    | [branch] => branch
    | branches =>
        match branches.mapM singleton?, branches.mapM set? with
        | some chars, _ => ofSet (.ofCodes (chars.map Char.toNat))
        | _, some sets => ofSet (sets.foldl .union .empty)
        | none, none =>
            match fuel, sharedLength branches with
            | fuel + 1, length + 1 =>
                let shared := (branches.headD .empty).items.take (length + 1)
                let rests := branches.map fun branch => ofConcat (branch.items.drop (length + 1))
                ofConcat (shared ++ [simplify fuel (rests.flatMap Expr.branches)])
            | _, _ => .alternation branches

end Expr

end NodeQuery.Regex
