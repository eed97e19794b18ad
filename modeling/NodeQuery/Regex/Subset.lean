import NodeQuery.Regex.Construction

/-!
# The deterministic automaton of a pattern

A pattern is accepted only if its automaton can be made deterministic within limits of size.  The
states of the deterministic automaton are sets of states; here they are counted and measured, up to
the limits.

A set remembers what was in front of it as far as an assertion may ask for it.  Whether an
assertion about the next byte holds is known one byte later, and so is whether a match has ended.
-/

namespace NodeQuery.Regex

/-- Why an automaton is not made deterministic. -/
inductive SizeFault where
  /-- Boundaries of words in the sense of Unicode depend on more than one byte. -/
  | unicodeBoundary
  /-- The deterministic automaton gets too large. -/
  | automaton
  /-- What is needed to construct it gets too large. -/
  | construction
  deriving Repr, DecidableEq

/-- The largest size of a deterministic automaton, and of what is needed to construct it. -/
def constructionLimit : Nat := 2 * Nat.pow 2 20

/-- A state of the deterministic automaton. -/
structure Subset where
  /-- Whether a match has ended in front of the last byte. -/
  isMatch : Bool
  /-- Whether the last byte was one of a word, if a boundary may ask for it. -/
  behindWord : Bool
  /-- Whether the last byte was `\r`, if a line end may ask for it. -/
  behindReturn : Bool
  /-- The assertions that hold whatever follows, if any state asks for one. -/
  held : List Look
  /-- The states, those that are preferred in front. -/
  states : Array Nat
  deriving DecidableEq, Hashable

namespace Look

/-- Whether an assertion asks for an end of the text. -/
def isTextEnd : Look → Bool
  | .start => true
  | .stop => true
  | _ => false

/-- Whether an assertion asks for an end of a line. -/
def isLineEnd : Look → Bool
  | .startLine => true
  | .stopLine => true
  | .startCrlf => true
  | .stopCrlf => true
  | _ => false

/-- Whether an assertion asks for an end of a line that may be `\r\n`. -/
def isCrlfEnd : Look → Bool
  | .startCrlf => true
  | .stopCrlf => true
  | _ => false

/-- Whether an assertion asks for a boundary. -/
def isBoundary : Look → Bool
  | .boundary _ _ => true
  | _ => false

/-- The assertion that no word is in front. -/
def noWordBefore : Look := .boundary .startHalf false

end Look

namespace Automaton

/-- The assertions of an automaton. -/
def looks (automaton : Automaton) : List Look :=
  automaton.nodes.toList.filterMap fun node =>
    match node with
    | .look place _ => some place
    | _ => none

/-- The ranges of bytes that a state tells from the bytes around them. -/
def Node.ranges : Node → List NumberRange
  | .branch edges => edges.map fun edge => ⟨edge.first, edge.last⟩
  | .look .startLine _ => [⟨0x0a, 0x0a⟩]
  | .look .stopLine _ => [⟨0x0a, 0x0a⟩]
  | .look .startCrlf _ => [⟨0x0a, 0x0a⟩, ⟨0x0d, 0x0d⟩]
  | .look .stopCrlf _ => [⟨0x0a, 0x0a⟩, ⟨0x0d, 0x0d⟩]
  | .look (.boundary _ _) _ =>
      [⟨0x30, 0x39⟩, ⟨0x41, 0x5a⟩, ⟨0x5f, 0x5f⟩, ⟨0x61, 0x7a⟩]
  | _ => []

/-- The first byte of each class of bytes that no state tells apart, in increasing order. -/
def classStarts (automaton : Automaton) : List Nat :=
  let starts := automaton.nodes.foldl
    (fun starts node =>
      (Node.ranges node).foldl
        (fun starts range => (starts.set! range.first true).set! (range.last + 1) true) starts)
    ((Array.replicate 257 false).set! 0 true)
  (List.range 256).filter fun byte => starts.getD byte false

end Automaton

/-- What stays the same while an automaton is made deterministic. -/
structure Determinizer where
  automaton : Automaton
  links : Nat
  looks : List Look
  /-- One byte of each class, and the end of the text. -/
  units : List (Option Nat)

namespace Determinizer

def ofAutomaton (automaton : Automaton) : Determinizer :=
  ⟨automaton, automaton.linkCount, automaton.looks,
    automaton.classStarts.map some ++ [none]⟩

/-- The assertions that the states of a set ask for. -/
def needs (worker : Determinizer) (states : Array Nat) : List Look :=
  states.toList.filterMap fun state =>
    match worker.automaton.node state with
    | .look place _ => some place
    | _ => none

/-- The set with the given states. -/
def subset (worker : Determinizer) (isMatch behindWord behindReturn : Bool) (held : List Look)
    (states : Array Nat) : Subset :=
  let held := if (worker.needs states).isEmpty then [] else held
  ⟨isMatch, behindWord, behindReturn, held, states⟩

/-- The set from which a search starts, where some assertions hold. -/
def first (worker : Determinizer) (behindWord behindReturn : Bool) (held : List Look) : Subset :=
  let reached :=
    worker.automaton.close worker.links (held.contains ·) worker.automaton.start .empty
  worker.subset false behindWord behindReturn held reached.order

/-- The sets from which searches start.  They differ in what is in front of the search: another
byte, a byte of a word, nothing, or an end of a line of one of three kinds.  Where no assertion at
the front of a match asks for it, there is no such difference. -/
def firstSubsets (worker : Determinizer) : List Subset :=
  let asked :=
    worker.needs (worker.automaton.close worker.links (fun _ => true) worker.automaton.entry
      .empty).order
  let held (kinds : List (Bool × Look)) : List Look :=
    kinds.filterMap fun (isHeld, look) => if isHeld then some look else none
  let hasText := worker.looks.any Look.isTextEnd
  let hasLine := worker.looks.any Look.isLineEnd
  let hasCrlf := worker.looks.any Look.isCrlfEnd
  let hasWord := worker.looks.any Look.isBoundary
  let noWord := (hasWord, Look.noWordBefore)
  let behindOther := [worker.first false false (held [noWord])]
  let behindWord :=
    if asked.any Look.isBoundary then [worker.first true false []] else []
  let behindEnd :=
    if asked.any fun look => look.isTextEnd || look.isLineEnd then
      [worker.first false false
          (held [(hasText, .start), (hasLine, .startLine), (hasLine, .startCrlf), noWord]),
        worker.first false false (held [(hasLine, .startLine), (hasLine, .startCrlf), noWord]),
        worker.first false hasCrlf (held [noWord]),
        worker.first false false (held [(hasLine, .startLine), noWord])]
    else []
  behindOther ++ behindWord ++ behindEnd

/-- Whether the next byte, or the end of the text, makes an assertion hold. -/
def isMadeBy (subset : Subset) (unit : Option Nat) : Look → Bool
  | .start => false
  | .startLine => false
  | .stop => unit.isNone
  | .stopLine => unit.all (· == 0x0a)
  | .startCrlf => subset.behindReturn && unit != some 0x0a
  | .stopCrlf =>
      unit.all fun byte => byte == 0x0d || (byte == 0x0a && !subset.behindReturn)
  | .boundary kind _ => kind.holds subset.behindWord (unit.any isWordByte)

/-- The states of a set, with those that are reached because of the next byte. -/
def widened (worker : Determinizer) (subset : Subset) (needs : List Look) (unit : Option Nat) :
    Array Nat :=
  let isMade := isMadeBy subset unit
  if needs.any fun look => isMade look && !subset.held.contains look then
    (subset.states.foldl
      (fun reached state =>
        worker.automaton.close worker.links (fun look => subset.held.contains look || isMade look)
          state reached)
      .empty).order
  else subset.states

/-- The states behind some states on a byte, up to a match: what is preferred less than a match is
given up. -/
def advance (worker : Determinizer) (held : List Look) (unit : Option Nat) :
    List Nat → Reached → Bool × Reached
  | [], reached => (false, reached)
  | state :: states, reached =>
      match worker.automaton.node state with
      | .accept => (true, reached)
      | _ =>
          match unit.bind (worker.automaton.next? state) with
          | some next =>
              advance worker held unit states
                (worker.automaton.close worker.links (held.contains ·) next reached)
          | none => advance worker held unit states reached

/-- The set behind another on a byte or at the end of the text. -/
def next (worker : Determinizer) (subset : Subset) (needs : List Look) (unit : Option Nat) :
    Subset :=
  let hasLine := worker.looks.any Look.isLineEnd
  let hasCrlf := worker.looks.any Look.isCrlfEnd
  let hasWord := worker.looks.any Look.isBoundary
  let isWord := unit.any isWordByte
  let held :=
    (if hasLine && unit == some 0x0a then [Look.startLine] else []) ++
      (if hasCrlf && unit == some 0x0a then [Look.startCrlf] else []) ++
      (if hasWord && !isWord then [Look.noWordBefore] else [])
  let (isMatch, reached) :=
    advance worker held unit (worker.widened subset needs unit).toList .empty
  let isLive := !reached.order.isEmpty
  worker.subset isMatch (isLive && hasWord && isWord)
    (isLive && hasCrlf && unit == some 0x0d) held reached.order

end Determinizer

namespace Subset

/-- The set from which nothing can be reached. -/
def dead : Subset := ⟨false, false, false, [], #[]⟩

/-- The bytes of a number that is written seven bits at a time. -/
def numberSize (number : Nat) : Nat :=
  if number < Nat.pow 2 7 then 1
  else if number < Nat.pow 2 14 then 2
  else if number < Nat.pow 2 21 then 3
  else if number < Nat.pow 2 28 then 4
  else 5

/-- The size of a set in bytes: each state is written as its difference from the one in front. -/
def size (subset : Subset) : Nat :=
  (subset.states.foldl
    (fun (size, previous) state =>
      let difference := if previous ≤ state then 2 * (state - previous)
        else 2 * (previous - state) - 1
      (size + numberSize difference, state))
    (9, 0)).1

end Subset

/-- The sets that have been found. -/
structure Census where
  found : Std.HashSet Subset
  /-- How many sets have been found beside the dead one. -/
  count : Nat
  /-- The sum of their sizes. -/
  total : Nat
  /-- The largest size of a set that has been looked at. -/
  longest : Nat

namespace Census

/-- Only the dead set, which every automaton has. -/
def start : Census := ⟨({} : Std.HashSet Subset).insert .dead, 0, 0, 0⟩

/-- The least power of two that is not below a number. -/
def powerAbove (number : Nat) : Nat :=
  if number ≤ 1 then 1 else Nat.pow 2 ((number - 1).log2 + 1)

/-- The size of the deterministic automaton with the sets found, the dead one and one that gives
up: a row of a table for each, wide enough for `width` entries of four bytes. -/
def automatonSize (census : Census) (width : Nat) : Nat :=
  4 * powerAbove width * (census.count + 2) + 52

/-- The size of what is needed to construct it: the sets and their index, and room to write down
the largest one. -/
def constructionSize (census : Census) : Nat :=
  16 * (census.count + 2) + 20 * (census.count + 1) + census.total +
    9 * powerAbove ((census.longest + 8) / 9) + 16

/-- Adds a set; says whether it is a new one. -/
def add (width : Nat) (subset : Subset) : Census → Except SizeFault (Bool × Census)
  | ⟨found, count, total, longest⟩ =>
      let size := subset.size
      if found.contains subset then .ok (false, ⟨found, count, total, max longest size⟩)
      else
        let census : Census :=
          ⟨found.insert subset, count + 1, total + size, max longest size⟩
        if constructionLimit < census.automatonSize width then .error .automaton
        else if constructionLimit < census.constructionSize then .error .construction
        else .ok (true, census)

/-- Adds sets and puts those that are new in front of those that wait. -/
def addAll (width : Nat) :
    List Subset → List Subset → Census → Except SizeFault (List Subset × Census)
  | [], waiting, census => .ok (waiting, census)
  | subset :: subsets, waiting, census => do
      let (isNew, census) ← add width subset census
      addAll width subsets (if isNew then subset :: waiting else waiting) census

/-- Adds all that can be reached from the sets that wait.  A set takes more than one byte of the
limit, so the limit is enough fuel. -/
def explore (worker : Determinizer) (width : Nat) :
    Nat → List Subset → Census → Except SizeFault Unit
  | 0, _, _ => .error .construction
  | _, [], _ => .ok ()
  | fuel + 1, subset :: waiting, census => do
      let needs := worker.needs subset.states
      let (waiting, census) ←
        addAll width (worker.units.map (worker.next subset needs)) waiting census
      explore worker width fuel waiting census

end Census

namespace Automaton

/-- Fails if the deterministic automaton is not within its limits. -/
def checkSize (automaton : Automaton) : Except SizeFault Unit := do
  let worker := Determinizer.ofAutomaton automaton
  let isUnicode (look : Look) : Bool :=
    match look with
    | .boundary _ unicode => unicode
    | _ => false
  if worker.looks.any isUnicode then .error .unicodeBoundary
  let width := worker.units.length
  let (waiting, census) ← Census.addAll width worker.firstSubsets [] .start
  Census.explore worker width constructionLimit waiting census

end Automaton

end NodeQuery.Regex
