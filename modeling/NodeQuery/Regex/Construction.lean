import NodeQuery.Regex.Draft

/-!
# From expressions to automata

Each expression becomes a fragment of a draft: a state where it begins and one where it ends.
States are shared in two places, since there they would soon be too many: characters beyond ASCII
share the states of equal endings, and a choice between literals shares the states of equal
beginnings.
-/

namespace NodeQuery.Regex

open Drafting

/-- The part of a draft that belongs to an expression. -/
structure Fragment where
  start : Nat
  stop : Nat
  deriving Repr, Inhabited

/-! ## Characters -/

/-- The endings that have been drafted, by their slots.  An ending takes its slot from the one that
had it before. -/
abbrev Endings := Std.HashMap Nat (List Edge × Nat)

namespace Endings

/-- How many slots there are. -/
def slotCount : Nat := 10000

/-- The slot of an ending. -/
def slot (edges : List Edge) : Nat :=
  let mix (hash : UInt64) (number : Nat) : UInt64 := (hash ^^^ number.toUInt64) * 1099511628211
  let hash := edges.foldl
    (fun hash edge => mix (mix (mix hash edge.first) edge.last) edge.target)
    14695981039346656037
  hash.toNat % slotCount

end Endings

/-- A state of a set of characters that may still get edges. -/
structure OpenEnding where
  /-- The finished edges, the latest first. -/
  edges : List Edge
  /-- The range of the edge that leads to the next open ending. -/
  last : Option NumberRange

/-- The edges of an open ending, whose last one leads to `target`. -/
def OpenEnding.close (ending : OpenEnding) (target : Nat) : List Edge :=
  match ending.last with
  | some range => ⟨range.first, range.last, target⟩ :: ending.edges
  | none => ending.edges

/-- A state with the given edges, which are the latest first: one that has been drafted if it is in
its slot. -/
def shareEnding (edges : List Edge) : StateT Endings Drafting Nat := do
  let edges := edges.reverse
  let slot := Endings.slot edges
  match (← get).get? slot with
  | some (edges', state) =>
      if edges == edges' then return state
  | none => pure ()
  let state ← add (.sparse edges)
  modify (·.insert slot (edges, state))
  return state

/-- Drafts open endings, each of which leads to the next and the last of which leads to `target`;
gives the state of the first. -/
def closeEndings (target : Nat) : List OpenEnding → StateT Endings Drafting Nat
  | [] => return target
  | ending :: endings => do
      let next ← closeEndings target endings
      shareEnding (ending.close next)

/-- Adds a sequence to open endings, which begin with the sequence before it.  What the two do not
share is finished. -/
def addSequence (target : Nat) :
    List OpenEnding → Utf8.Sequence → StateT Endings Drafting (List OpenEnding)
  | ending :: endings, range :: sequence => do
      if ending.last = some range then
        return ending :: (← addSequence target endings sequence)
      else
        let next ← closeEndings target endings
        let rest := sequence.map fun range => OpenEnding.mk [] (some range)
        return ⟨ending.close next, some range⟩ :: rest
  | endings, _ => return endings

/-- The states that take the bytes of one character of a set. -/
def draftSet (set : RangeSet) : Drafting Fragment := do
  let stop ← addLink
  if isAscii set then
    let start ← add (.sparse (set.ranges.map fun range => ⟨range.first, range.last, stop⟩))
    return ⟨start, stop⟩
  else
    let sequences := set.ranges.flatMap Utf8.sequencesOf
    let draft : StateT Endings Drafting Nat := do
      let endings ← sequences.foldlM (addSequence stop) [⟨[], none⟩]
      closeEndings stop endings
    let (start, _) ← draft.run {}
    return ⟨start, stop⟩

/-! ## Literals -/

/-- Literals that share their beginnings.  Ways to longer literals come in chunks: a literal ends
behind each chunk but the last, and ways in front of that end are preferred to it. -/
inductive LiteralTree where
  | node (closed : List (List (Nat × LiteralTree))) (current : List (Nat × LiteralTree))

namespace LiteralTree

/-- No literal. -/
def empty : LiteralTree := .node [] []

/-- Whether no way leads on. -/
def isLeaf : LiteralTree → Bool
  | .node closed current => closed.all List.isEmpty && current.isEmpty

/-- Ends a literal. -/
def close : LiteralTree → LiteralTree
  | .node closed current =>
      if (node closed current).isLeaf && !closed.isEmpty then .node closed current
      else .node (closed ++ [current]) []

/-- Changes the tree behind a byte, whose ways are ordered by their bytes. -/
def alterAt (byte : Nat) (change : LiteralTree → LiteralTree) :
    List (Nat × LiteralTree) → List (Nat × LiteralTree)
  | [] => [(byte, change .empty)]
  | (other, child) :: ways =>
      if other < byte then (other, child) :: alterAt byte change ways
      else if other = byte then (other, change child) :: ways
      else (byte, change .empty) :: (other, child) :: ways

/-- Adds a literal. -/
def insert : List Nat → LiteralTree → LiteralTree
  | [], tree => tree.close
  | byte :: bytes, .node closed current => .node closed (alterAt byte (insert bytes) current)

/-- The state with the edges of a chunk, if there are any. -/
def draftChunk : List Edge → Drafting (List Nat)
  | [] => return []
  | [edge] => return [← add (.range edge)]
  | edges => return [← add (.sparse edges)]

mutual

/-- Drafts a tree whose literals end in `stop`; gives its first state. -/
def draft (stop : Nat) : LiteralTree → Drafting Nat
  | .node closed current => do
      let alternates ← draftChunks stop closed
      let last ← draftWays stop current
      let alternates := alternates ++ (← draftChunk last)
      add (.union alternates.toArray false)

/-- Drafts closed chunks, each with the end behind it. -/
def draftChunks (stop : Nat) : List (List (Nat × LiteralTree)) → Drafting (List Nat)
  | [] => return []
  | chunk :: chunks => do
      let edges ← draftWays stop chunk
      let state ← draftChunk edges
      return state ++ stop :: (← draftChunks stop chunks)

/-- The edges of the ways of a chunk. -/
def draftWays (stop : Nat) : List (Nat × LiteralTree) → Drafting (List Edge)
  | [] => return []
  | way :: ways => do
      let edge ← draftWay stop way
      return edge :: (← draftWays stop ways)

/-- The edge of a way. -/
def draftWay (stop : Nat) : Nat × LiteralTree → Drafting Edge
  | (byte, child) => do
      let next ← if child.isLeaf then pure stop else draft stop child
      return ⟨byte, byte, next⟩

end

end LiteralTree

/-- The bytes of a text. -/
def textBytes (text : List Char) : List Nat := text.flatMap fun char => Utf8.encode char.toNat

/-- The states of a choice between literals. -/
def draftLiterals (literals : List (List Char)) : Drafting Fragment := do
  let tree := literals.foldl (fun tree text => tree.insert (textBytes text)) LiteralTree.empty
  let stop ← addLink
  let start ← tree.draft stop
  return ⟨start, stop⟩

/-! ## Sequences and repetitions -/

namespace Fragment

/-- The fragment of one state. -/
def single (state : Nat) : Fragment := ⟨state, state⟩

/-- Lets a fragment follow another. -/
def append (fragment next : Fragment) : Drafting Fragment := do
  connect fragment.stop next.start
  return ⟨fragment.start, next.stop⟩

end Fragment

/-- A fragment that matches the empty text. -/
def draftEmpty : Drafting Fragment := return .single (← addLink)

/-- Appends a state for each of some bytes. -/
def appendBytes : Fragment → List Nat → Drafting Fragment
  | fragment, [] => return fragment
  | fragment, byte :: bytes => do
      let state ← add (.range ⟨byte, byte, 0⟩)
      appendBytes (← fragment.append (.single state)) bytes

/-- The states that take the bytes of a text. -/
def draftText (text : List Char) : Drafting Fragment := do
  match textBytes text with
  | [] => draftEmpty
  | byte :: bytes => appendBytes (.single (← add (.range ⟨byte, byte, 0⟩))) bytes

/-- Appends copies of an expression. -/
def appendCopies (copy : Drafting Fragment) : Nat → Fragment → Drafting Fragment
  | 0, fragment => return fragment
  | count + 1, fragment => do
      let next ← copy
      appendCopies copy count (← fragment.append next)

/-- Copies of an expression, one after the other. -/
def draftCopies (copy : Drafting Fragment) : Nat → Drafting Fragment
  | 0 => draftEmpty
  | count + 1 => do appendCopies copy count (← copy)

/-- Appends copies of an expression, in front of each of which the match may go on at `skip`. -/
def appendOptions (copy : Drafting Fragment) (lazy : Bool) (skip : Nat) :
    Nat → Nat → Drafting Nat
  | 0, stop => return stop
  | count + 1, stop => do
      let choice ← addUnion lazy
      let next ← copy
      connect stop choice
      connect choice next.start
      connect choice skip
      appendOptions copy lazy skip count next.stop

/-- An expression or nothing. -/
def draftOption (copy : Drafting Fragment) (lazy : Bool) : Drafting Fragment := do
  let choice ← addUnion lazy
  let fragment ← copy
  let stop ← addLink
  connect choice fragment.start
  connect choice stop
  connect fragment.stop stop
  return ⟨choice, stop⟩

/-- `min` to `max` copies of an expression. -/
def draftBounded (copy : Drafting Fragment) (lazy : Bool) (min max : Nat) : Drafting Fragment := do
  let front ← draftCopies copy min
  if max ≤ min then return front
  let stop ← addLink
  let last ← appendOptions copy lazy stop (max - min) front.stop
  connect last stop
  return ⟨front.start, stop⟩

/-- At least `min` copies of an expression.  If it cannot be empty, one choice makes a loop that
may be passed over; otherwise the loop that has to be taken once is an option. -/
def draftUnbounded (copy : Drafting Fragment) (lazy canBeEmpty : Bool) (min : Nat) :
    Drafting Fragment := do
  match min with
  | 0 =>
      if canBeEmpty then
        let fragment ← copy
        let again ← addUnion lazy
        connect fragment.stop again
        connect again fragment.start
        let choice ← addUnion lazy
        let stop ← addLink
        connect choice fragment.start
        connect choice stop
        connect again stop
        return ⟨choice, stop⟩
      else
        let choice ← addUnion lazy
        let fragment ← copy
        connect choice fragment.start
        connect fragment.stop choice
        return .single choice
  | 1 => do
      let fragment ← copy
      let again ← addUnion lazy
      connect fragment.stop again
      connect again fragment.start
      return ⟨fragment.start, again⟩
  | min + 1 => do
      let front ← draftCopies copy min
      let last ← copy
      let again ← addUnion lazy
      connect front.stop last.start
      connect last.stop again
      connect again last.start
      return ⟨front.start, again⟩

/-! ## Expressions -/

namespace Expr

/-- The text that an expression is, if it is a literal. -/
def text? : Expr → Option (List Char)
  | .literal text => some text
  | _ => none

mutual

/-- The fragment of an expression. -/
def draft : Expr → Drafting Fragment
  | .empty => draftEmpty
  | .literal text => draftText text
  | .oneOf set => draftSet set
  | .look place => return .single (← add (.look place 0))
  | .repetition 0 (some 1) greedy body => draftOption (draft body) (!greedy)
  | .repetition min (some max) greedy body => draftBounded (draft body) (!greedy) min max
  | .repetition min none greedy body =>
      let canBeEmpty := !body.minLength?.any (0 < ·)
      draftUnbounded (draft body) (!greedy) canBeEmpty min
  | .capture _ body => draft body
  | .concat items => draftConcat items
  | .alternation branches =>
      match branches.mapM text? with
      | some literals => draftLiterals literals
      | none => draftAlternation branches

/-- The fragment of expressions that follow each other. -/
def draftConcat : List Expr → Drafting Fragment
  | [] => draftEmpty
  | item :: items => do appendItems (← draft item) items

/-- Appends expressions to a fragment. -/
def appendItems (fragment : Fragment) : List Expr → Drafting Fragment
  | [] => return fragment
  | item :: items => do
      let next ← draft item
      appendItems (← fragment.append next) items

/-- The fragment of a choice. -/
def draftAlternation : List Expr → Drafting Fragment
  | first :: second :: branches => do
      let first ← draft first
      let second ← draft second
      let choice ← addUnion false
      let stop ← addLink
      for fragment in [first, second] do
        connect choice fragment.start
        connect fragment.stop stop
      appendBranches choice stop branches
      return ⟨choice, stop⟩
  | [branch] => draft branch
  | [] => draftSet .empty

/-- Adds branches to a choice. -/
def appendBranches (choice stop : Nat) : List Expr → Drafting Unit
  | [] => return ()
  | branch :: branches => do
      let fragment ← draft branch
      connect choice fragment.start
      connect fragment.stop stop
      appendBranches choice stop branches

end

/-- What lets a match start behind any bytes: a loop over them that is left as soon as possible.
Where every match begins at the start of the text there is no such loop. -/
def draftFront (expr : Expr) : Drafting Fragment :=
  if expr.isAnchored then draftEmpty
  else do
    let choice ← addUnion true
    let stop ← addLink
    let byte ← add (.sparse [⟨0x00, 0xff, stop⟩])
    connect choice byte
    connect stop choice
    return .single choice

/-- The draft of the automaton of an expression, with the states where it starts. -/
def draftAll (expr : Expr) : Drafting (Nat × Nat) := do
  let front ← expr.draftFront
  let fragment ← expr.draft
  connect fragment.stop (← add .accept)
  connect front.stop fragment.start
  return (front.start, fragment.start)

/-- The automaton of an expression, unless it is too large. -/
def automaton? (expr : Expr) : Option Automaton := do
  let ((start, entry), draft) ← expr.draftAll.run .empty
  return draft.finish start entry

end Expr

end NodeQuery.Regex
