import NodeQuery.Regex.Reader

/-!
# Reading patterns

Groups and brackets are kept open on stacks, so a pattern may open as many as it likes; how deep it
nests is checked when all of it has been read.
-/

namespace NodeQuery.Regex

open Reader

/-! ## Classes in brackets -/

/-- What has been read behind an open bracket. -/
structure OpenClass where
  negated : Bool
  /-- The operator that waits for its right side, with its left side. -/
  pending : Option (ClassOp × ClassTerm)
  /-- The members since the last operator, the latest first. -/
  items : List ClassTerm

namespace OpenClass

def push (level : OpenClass) (item : ClassTerm) : OpenClass :=
  { level with items := item :: level.items }

/-- The term of everything read; operators group from the left. -/
def term (level : OpenClass) : ClassTerm :=
  let operand := ClassTerm.ofItems level.items.reverse
  match level.pending with
  | none => operand
  | some (op, left) => .combine op left operand

/-- Makes everything read the left side of an operator. -/
def operator (level : OpenClass) (op : ClassOp) : OpenClass :=
  ⟨level.negated, some (op, level.term), []⟩

end OpenClass

/-- Dashes at the front of a class, which are members. -/
def readDashes (verbose : Bool) : Nat → OpenClass → Reader OpenClass
  | 0, level => pure level
  | fuel + 1, level => do
      if (← peek .unclosedClass) = '-' then
        step verbose
        readDashes verbose fuel (level.push (.literal ⟨'-', false⟩))
      else
        return level

/-- The start of a class; its bracket stands next.  A closing bracket at the very front is a
member. -/
def openClass (verbose : Bool) : Reader OpenClass := do
  step verbose
  let negated := (← peek .unclosedClass) = '^'
  if negated then step verbose
  let level ← readDashes verbose (← get).length ⟨negated, none, []⟩
  if level.items.isEmpty && (← peek .unclosedClass) = ']' then
    step verbose
    let _ ← peek .unclosedClass
    return level.push (.literal ⟨']', false⟩)
  else
    let _ ← peek .unclosedClass
    return level

/-- A named class such as `[:alpha:]` and what follows it. -/
def namedClass? (chars : List Char) : Option (ClassTerm × List Char) :=
  let named (negated : Bool) (chars : List Char) : Option (ClassTerm × List Char) :=
    match chars.dropWhile (· ≠ ':') with
    | ':' :: ']' :: rest =>
        (NamedClass.ofName? (.ofList (chars.takeWhile (· ≠ ':')))).map fun kind =>
          (.named kind negated, rest)
    | _ => none
  match chars with
  | '[' :: ':' :: '^' :: rest => named true rest
  | '[' :: ':' :: rest => named false rest
  | _ => none

/-- The character behind a dash that decides whether the dash stands for a range.  In a verbose
pattern blanks and one `#` are passed over. -/
def behindDash? (verbose : Bool) (chars : List Char) : Option Char :=
  if verbose then
    match chars.dropWhile Text.isBlank with
    | '#' :: rest => (rest.dropWhile Text.isBlank).head?
    | rest => rest.head?
  else
    chars.head?

/-- A character or an escape in a class. -/
def readClassAtom (verbose : Bool) : Reader Atom := do
  let char ← peek .unclosedClass
  if char = '\\' then readEscape verbose
  else
    advance
    return .literal ⟨char, false⟩

/-- A member of a class or a range of members. -/
def readMember (verbose : Bool) : Reader ClassTerm := do
  let first ← readClassAtom verbose
  modify (skipBlanks verbose)
  let char ← peek .unclosedClass
  let behind? := behindDash? verbose (← get).tail
  if char ≠ '-' || behind? = some ']' || behind? = some '-' then
    require (ClassTerm.ofAtom? first) .classEscape
  else
    step verbose
    let _ ← peek .unclosedClass
    let last ← readClassAtom verbose
    match first, last with
    | .literal first, .literal last =>
        refuse (last.char < first.char) .invertedRange
        return .range first last
    | _, _ => throw .rangeBoundary

/-- The operator that stands next. -/
def classOp? : List Char → Option ClassOp
  | '&' :: '&' :: _ => some .inter
  | '-' :: '-' :: _ => some .diff
  | '~' :: '~' :: _ => some .symmDiff
  | _ => none

/-- The rest of a class: `level` is the innermost open bracket, `outer` are those around it.  Each
round takes at least one character, so the length of the text is enough fuel. -/
def readClassItems (verbose : Bool) :
    Nat → OpenClass → List OpenClass → Reader (Bool × ClassTerm)
  | 0, _, _ => throw .unclosedClass
  | fuel + 1, level, outer => do
      modify (skipBlanks verbose)
      let char ← peek .unclosedClass
      let chars ← get
      match char, namedClass? chars, classOp? chars with
      | '[', some (item, rest), _ =>
          set rest
          readClassItems verbose fuel (level.push item) outer
      | '[', none, _ =>
          let inner ← openClass verbose
          readClassItems verbose fuel inner (level :: outer)
      | ']', _, _ =>
          advance
          match outer with
          | [] => return (level.negated, level.term)
          | parent :: outer =>
              readClassItems verbose fuel (parent.push (.bracket level.negated level.term)) outer
      | _, _, some op =>
          set (chars.drop 2)
          readClassItems verbose fuel (level.operator op) outer
      | _, _, none =>
          let item ← readMember verbose
          readClassItems verbose fuel (level.push item) outer

/-- A class; its bracket stands next. -/
def readClass (verbose : Bool) : Reader (Bool × ClassTerm) := do
  let fuel := (← get).length
  let level ← openClass verbose
  readClassItems verbose (fuel + 1) level []

/-! ## Patterns -/

/-- The branches of a group as far as they have been read. -/
structure Branches where
  /-- The finished branches, the latest first. -/
  finished : List Ast
  /-- The items of the open branch, the latest first. -/
  items : List Ast

namespace Branches

/-- Nothing read yet. -/
def empty : Branches := ⟨[], []⟩

def push (branches : Branches) (item : Ast) : Branches :=
  ⟨branches.finished, item :: branches.items⟩

/-- Ends the open branch. -/
def close (branches : Branches) : Branches :=
  ⟨Ast.ofItems branches.items.reverse :: branches.finished, []⟩

/-- The pattern of everything read. -/
def pattern (branches : Branches) : Ast := Ast.ofBranches branches.close.finished.reverse

/-- The item that a repetition applies to, and the branches without it. -/
def operand? (branches : Branches) : Option (Ast × Branches) :=
  match branches.items with
  | [] => none
  | .settings _ :: _ => none
  | item :: items => some (item, ⟨branches.finished, items⟩)

end Branches

/-- A group that has been opened. -/
structure OpenGroup where
  kind : GroupKind
  /-- What has been read in front of the group. -/
  outer : Branches
  /-- Whether the pattern is verbose outside the group. -/
  verbose : Bool

/-- What has been read of a pattern. -/
structure Progress where
  /-- The open groups, the innermost first. -/
  groups : List OpenGroup
  /-- The branches of the innermost group. -/
  branches : Branches
  verbose : Bool
  /-- How many groups capture. -/
  captures : Nat
  names : List (List Char)

namespace Progress

/-- Nothing read yet. -/
def start : Progress := ⟨[], .empty, false, 0, []⟩

def push (progress : Progress) (item : Ast) : Progress :=
  { progress with branches := progress.branches.push item }

/-- Opens a group in which the pattern is verbose or not. -/
def openGroup (progress : Progress) (kind : GroupKind) (verbose : Bool) : Progress :=
  { progress with
    groups := ⟨kind, progress.branches, progress.verbose⟩ :: progress.groups
    branches := .empty
    verbose }

/-- Opens a group that captures. -/
def openCapture (progress : Progress) : Progress :=
  let index := progress.captures + 1
  { progress.openGroup (.capture index) progress.verbose with captures := index }

/-- Closes the innermost group. -/
def closeGroup (progress : Progress) : Except Fault Progress :=
  match progress.groups with
  | [] => .error .unopenedGroup
  | group :: groups =>
      .ok { progress with
        groups
        branches := group.outer.push (.group group.kind progress.branches.pattern)
        verbose := group.verbose }

/-- The pattern, once all of its text has been read. -/
def finish (progress : Progress) : Except Fault Ast :=
  match progress.groups with
  | [] => .ok progress.branches.pattern
  | _ :: _ => .error .unclosedGroup

/-- Replaces the last item by its repetition. -/
def repeatLast (progress : Progress) (bounds : Reader (Nat × Option Nat × Bool)) :
    Reader Progress := do
  let (body, branches) ← require progress.branches.operand? .missingOperand
  let (min, max, greedy) ← bounds
  return { progress with branches := branches.push (.repetition min max greedy body) }

/-- The bounds of a repetition that is written as one sign, which stands next. -/
def readSign (min : Nat) (max : Option Nat) : Reader (Nat × Option Nat × Bool) := do
  advance
  return (min, max, ← readGreed)

/-- Takes the start of a named group up to its name, which has not been taken. -/
def readNamedGroup (progress : Progress) : Reader Progress := do
  let (name, rest) ← readName [] (← get)
  set rest
  refuse name.isEmpty .emptyName
  refuse (progress.names.contains name) .duplicateName
  return { progress.openCapture with names := name :: progress.names }

/-- Takes flags, which are set for a group or for the rest of the group that they stand in. -/
def readFlagGroup (progress : Progress) : Reader Progress := do
  let _ ← peek .unclosedGroup
  let (settings, rest) ← readFlags [] false false (← get)
  set rest.tail
  let verbose := (settings.lookup .verbose).getD progress.verbose
  if rest.head? = some ')' then
    refuse settings.isEmpty .missingOperand
    return { progress.push (.settings settings) with verbose }
  else
    return progress.openGroup (.scope settings) verbose

/-- Takes the start of a group, or flags in parentheses; the parenthesis stands next. -/
def readGroupStart (progress : Progress) : Reader Progress := do
  step progress.verbose
  for sign in ["?=", "?!", "?<=", "?<!"] do
    refuse (← accept sign) .lookAround
  if ← accept "?P<" then progress.readNamedGroup
  else if ← accept "?<" then progress.readNamedGroup
  else if ← accept "?" then progress.readFlagGroup
  else return progress.openCapture

/-- Takes the next part of the pattern; it starts with `char`. -/
def readPart (progress : Progress) (char : Char) : Reader Progress := do
  let item (item : Ast) : Reader Progress := do
    advance
    return progress.push item
  match char with
  | '(' => progress.readGroupStart
  | ')' => do
      advance
      progress.closeGroup
  | '|' => do
      advance
      return { progress with branches := progress.branches.close }
  | '[' => do
      let (negated, term) ← readClass progress.verbose
      return progress.push (.bracket negated term)
  | '?' => progress.repeatLast (readSign 0 (some 1))
  | '*' => progress.repeatLast (readSign 0 none)
  | '+' => progress.repeatLast (readSign 1 none)
  | '{' => progress.repeatLast (readCount progress.verbose)
  | '\\' => do return progress.push (.atom (← readEscape progress.verbose))
  | '.' => item (.atom .dot)
  | '^' => item (.atom (.assertion .startLine))
  | '$' => item (.atom (.assertion .stopLine))
  | char => item (.atom (.literal ⟨char, false⟩))

/-- Takes the rest of the pattern.  Each round takes at least one character, so the length of the
text is enough fuel. -/
def readParts : Nat → Progress → Reader Progress
  | 0, progress => pure progress
  | fuel + 1, progress => do
      modify (skipBlanks progress.verbose)
      match ← next? with
      | none => return progress
      | some char => readParts fuel (← progress.readPart char)

end Progress

/-- The tree of a pattern. -/
def Ast.parse (pattern : List Char) : Except Fault Ast := do
  let (progress, _) ← Progress.start.readParts (pattern.length + 1) pattern
  let ast ← progress.finish
  if nestLimit < ast.depth then .error .tooDeep else .ok ast

end NodeQuery.Regex
