import NodeQuery.Regex.Expr
import NodeQuery.Text.Utf8
import Std.Data.HashSet

/-!
# Automata

An automaton reads bytes.  Some of its states take a byte, others go on at once, and of those some
only where an assertion holds.  It matches a text if a run from its entry, at the start of some
character, reaches the accepting state.
-/

namespace NodeQuery.Regex

/-- A way to a state on every byte of a range. -/
structure Edge where
  first : Nat
  last : Nat
  target : Nat
  deriving Repr, DecidableEq, Inhabited

/-- Whether an edge can be taken on a byte. -/
def Edge.takes (edge : Edge) (byte : Nat) : Bool := edge.first ≤ byte && byte ≤ edge.last

/-- A state of an automaton. -/
inductive Node where
  | accept
  | fail
  /-- Takes a byte along the first edge that can be taken. -/
  | branch (edges : List Edge)
  /-- Goes on where an assertion holds. -/
  | look (place : Look) (next : Nat)
  /-- Goes on to each of the states, those in front first. -/
  | union (alternates : List Nat)
  deriving Repr, Inhabited

/-- An automaton; states are numbered from zero. -/
structure Automaton where
  nodes : Array Node
  /-- Where runs start that may pass over the front of the text. -/
  start : Nat
  /-- Where matches start. -/
  entry : Nat
  deriving Repr, Inhabited

/-- Whether a byte is a letter or digit of ASCII or `_`. -/
def isWordByte (byte : Nat) : Bool :=
  (0x30 ≤ byte && byte ≤ 0x39) || (0x41 ≤ byte && byte ≤ 0x5a) || byte = 0x5f ||
    (0x61 ≤ byte && byte ≤ 0x7a)

/-- The bytes on both sides of a gap; there is none at an end of the text. -/
structure Gap where
  before : Option Nat
  after : Option Nat
  deriving Repr, DecidableEq

/-- Whether a boundary lies between characters that are word characters or not. -/
def Boundary.holds (before after : Bool) : Boundary → Bool
  | .word => before != after
  | .notWord => before == after
  | .start => !before && after
  | .stop => before && !after
  | .startHalf => !before
  | .stopHalf => !after

/-- Whether an assertion holds at a gap.  Boundaries are those of ASCII. -/
def Look.holds (gap : Gap) : Look → Bool
  | .start => gap.before.isNone
  | .stop => gap.after.isNone
  | .startLine => gap.before.all (· == 0x0a)
  | .stopLine => gap.after.all (· == 0x0a)
  | .startCrlf =>
      gap.before.all fun byte => byte == 0x0a || (byte == 0x0d && gap.after != some 0x0a)
  | .stopCrlf =>
      gap.after.all fun byte => byte == 0x0d || (byte == 0x0a && gap.before != some 0x0d)
  | .boundary kind _ =>
      kind.holds (gap.before.any isWordByte) (gap.after.any isWordByte)

/-- States in the order in which they were reached, none twice. -/
structure Reached where
  order : Array Nat
  seen : Std.HashSet Nat

namespace Reached

def empty : Reached := ⟨#[], {}⟩

def contains (reached : Reached) (state : Nat) : Bool := reached.seen.contains state

def insert (reached : Reached) (state : Nat) : Reached :=
  ⟨reached.order.push state, reached.seen.insert state⟩

end Reached

namespace Automaton

def node (automaton : Automaton) (state : Nat) : Node := automaton.nodes.getD state .fail

/-- How many ways lead on from all states without a byte. -/
def linkCount (automaton : Automaton) : Nat :=
  automaton.nodes.foldl
    (fun count node =>
      match node with
      | .union alternates => count + alternates.length
      | .look _ _ => count + 1
      | _ => count)
    0

/-- Adds the states that can be reached from `pending` without a byte, where an assertion holds as
`holds` says.  Every way is followed once, so their number bounds the rounds. -/
def follow (automaton : Automaton) (holds : Look → Bool) :
    Nat → List Nat → Reached → Reached
  | 0, _, reached => reached
  | _, [], reached => reached
  | fuel + 1, state :: pending, reached =>
      if reached.contains state then automaton.follow holds fuel pending reached
      else
        let reached := reached.insert state
        match automaton.node state with
        | .union alternates => automaton.follow holds fuel (alternates ++ pending) reached
        | .look place next =>
            if holds place then automaton.follow holds fuel (next :: pending) reached
            else automaton.follow holds fuel pending reached
        | _ => automaton.follow holds fuel pending reached

/-- Adds a state and all that can be reached from it without a byte. -/
def close (automaton : Automaton) (links : Nat) (holds : Look → Bool) (state : Nat)
    (reached : Reached) : Reached :=
  automaton.follow holds (links + 1) [state] reached

/-- The state behind another on a byte. -/
def next? (automaton : Automaton) (state byte : Nat) : Option Nat :=
  match automaton.node state with
  | .branch edges => (edges.find? (·.takes byte)).map Edge.target
  | _ => none

/-- The states behind some states on a byte, and those that they lead to at a gap. -/
def step (automaton : Automaton) (links : Nat) (reached : Reached) (byte : Nat) (gap : Gap) :
    Reached :=
  reached.order.foldl
    (fun reached state =>
      match automaton.next? state byte with
      | some next => automaton.close links (·.holds gap) next reached
      | none => reached)
    .empty

/-- Whether the accepting state has been reached. -/
def accepts (automaton : Automaton) (reached : Reached) : Bool :=
  reached.order.any fun state =>
    match automaton.node state with
    | .accept => true
    | _ => false

/-- The states after the bytes of a text, the first of which follows `before`. -/
def run (automaton : Automaton) (links : Nat) (reached : Reached) (after : Option Nat) :
    List Nat → Reached
  | [] => reached
  | [byte] => automaton.step links reached byte ⟨some byte, after⟩
  | byte :: next :: bytes =>
      automaton.run links (automaton.step links reached byte ⟨some byte, some next⟩) after
        (next :: bytes)

/-- Whether a match starts in the text or goes on into it: `reached` are the states in front of the
text, and `before` is the byte in front of it. -/
def searchFrom (automaton : Automaton) (links : Nat) (before : Option Nat) (reached : Reached) :
    List Char → Bool
  | [] =>
      automaton.accepts
        (automaton.close links (·.holds ⟨before, none⟩) automaton.entry reached)
  | char :: text =>
      let bytes := Utf8.encode char.toNat
      let after := text.head?.bind fun char => (Utf8.encode char.toNat).head?
      let reached :=
        automaton.close links (·.holds ⟨before, bytes.head?⟩) automaton.entry reached
      if automaton.accepts reached then true
      else automaton.searchFrom links bytes.getLast? (automaton.run links reached after bytes) text

/-- Whether a part of a text matches. -/
def matchesIn (automaton : Automaton) (text : List Char) : Bool :=
  automaton.searchFrom automaton.linkCount none .empty text

end Automaton

end NodeQuery.Regex
