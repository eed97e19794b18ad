import NodeQuery.Regex.Expr

/-!
# What patterns mean

The flags in force decide what the parts of a pattern match.  A pattern without the flag `unicode`
may still match whole characters only: what could match a part of a character has no meaning, and
neither has an unknown property.
-/

namespace NodeQuery.Regex

/-- The flags in force at some place of a pattern. -/
structure Flags where
  ignoreCase : Bool
  multiLine : Bool
  dotAll : Bool
  swapGreed : Bool
  unicode : Bool
  crlf : Bool
  deriving Repr, DecidableEq

namespace Flags

/-- The flags at the start of a pattern. -/
def initial : Flags := ⟨false, false, false, false, true, false⟩

/-- The flags with one of them switched. -/
def put (flags : Flags) : Flag × Bool → Flags
  | (.ignoreCase, value) => { flags with ignoreCase := value }
  | (.multiLine, value) => { flags with multiLine := value }
  | (.dotAll, value) => { flags with dotAll := value }
  | (.swapGreed, value) => { flags with swapGreed := value }
  | (.unicode, value) => { flags with unicode := value }
  | (.crlf, value) => { flags with crlf := value }
  | (.verbose, _) => flags

/-- The flags with some of them switched. -/
def putAll (flags : Flags) (settings : Settings) : Flags := settings.foldl put flags

/-- The other characters that a character matches. -/
def variants (flags : Flags) (char : Char) : List Nat :=
  if !flags.ignoreCase then []
  else if flags.unicode then Unicode.caseVariants char.toNat
  else if char.isUpper then [char.toLower.toNat]
  else if char.isLower then [char.toUpper.toNat]
  else []

/-- A set with the case variants of its members where case has no meaning. -/
def fold (flags : Flags) (set : RangeSet) : RangeSet :=
  if !flags.ignoreCase then set
  else if flags.unicode then Unicode.closeUnderCase set
  else (Unicode.closeUnderCase (set.inter asciiCharacters)).inter asciiCharacters

/-- All characters that are not in a set, if that has a meaning: without the flag `unicode` they
would be bytes. -/
def negate? (flags : Flags) (negated : Bool) (set : RangeSet) : Option RangeSet :=
  if negated && !flags.unicode then none else some (negateIf negated set)

/-- The characters of a class with an escape. -/
def escaped? (flags : Flags) (kind : EscapedClass) (negated : Bool) : Option RangeSet :=
  flags.negate? negated (if flags.unicode then kind.full else kind.ascii)

/-- The characters with a property or without it. -/
def property? (flags : Flags) (property : Property) (negated : Bool) : Option RangeSet := do
  let set ← property.set?
  if flags.unicode then flags.negate? negated (flags.fold set) else none

/-- The code of a member of a class. -/
def member? (flags : Flags) (literal : Literal) : Option Nat :=
  if flags.unicode || literal.char.toNat < 0x80 then some literal.char.toNat else none

/-- The characters that `.` matches. -/
def dot? (flags : Flags) : Option RangeSet :=
  if !flags.unicode then none
  else if flags.dotAll then some everyCharacter
  else if flags.crlf then some (otherCharacters (.ofCodes [0x0a, 0x0d]))
  else some (otherCharacters (.ofCodes [0x0a]))

/-- What an assertion looks for. -/
def look (flags : Flags) : Assertion → Look
  | .startText => .start
  | .stopText => .stop
  | .startLine =>
      if !flags.multiLine then .start else if flags.crlf then .startCrlf else .startLine
  | .stopLine =>
      if !flags.multiLine then .stop else if flags.crlf then .stopCrlf else .stopLine
  | .boundary boundary => .boundary boundary flags.unicode

end Flags

namespace ClassTerm

mutual

/-- The characters of a class; case variants are added around brackets and operands. -/
def set? (flags : Flags) : ClassTerm → Option RangeSet
  | .literal written => do return .ofCodes [← flags.member? written]
  | .range first last => do
      let first ← flags.member? first
      let last ← flags.member? last
      return (RangeSet.range first last).inter everyCharacter
  | .named kind negated => flags.negate? negated (flags.fold kind.set)
  | .escaped kind negated => flags.escaped? kind negated
  | .property query negated => flags.property? query negated
  | .bracket negated term => do flags.negate? negated (flags.fold (← set? flags term))
  | .union items => unionOf? flags items
  | .combine op left right => do
      let left := flags.fold (← set? flags left)
      let right := flags.fold (← set? flags right)
      match op with
      | .inter => return left.inter right
      | .diff => return left.diff right lastCode
      | .symmDiff => return left.symmDiff right lastCode

def unionOf? (flags : Flags) : List ClassTerm → Option RangeSet
  | [] => some .empty
  | item :: items => do return (← set? flags item).union (← unionOf? flags items)

end

end ClassTerm

/-- What an atom means. -/
def Atom.expr? (flags : Flags) : Atom → Option Expr
  | .literal written =>
      if written.isByte && !flags.unicode && 0x80 ≤ written.char.toNat then none
      else
        match flags.variants written.char with
        | [] => some (.literal [written.char])
        | variants => some (.ofSet (.ofCodes (written.char.toNat :: variants)))
  | .dot => flags.dot?.map .ofSet
  | .assertion place => some (.look (flags.look place))
  | .escaped kind negated => (flags.escaped? kind negated).map .ofSet
  | .property query negated => (flags.property? query negated).map .ofSet

namespace Ast

mutual

/-- What a pattern means.  The state holds the flags in force; a group restores those in front of
it. -/
def expr : Ast → StateT Flags Option Expr
  | .empty => pure .empty
  | .settings switched => do
      modify (·.putAll switched)
      return .empty
  | .atom part => do part.expr? (← get)
  | .bracket negated term => do
      let members ← (ClassTerm.bracket negated term).set? (← get)
      return .ofSet members
  | .repetition min max greedy body => do
      let body ← expr body
      return .ofRepetition min max (greedy != (← get).swapGreed) body
  | .group (.capture index) body => do
      let outer ← get
      let body ← expr body
      set outer
      return .capture index body
  | .group (.scope switched) body => do
      let outer ← get
      set (outer.putAll switched)
      let body ← expr body
      set outer
      return body
  | .concat items => do return .ofConcat (← exprList items)
  | .alternation branches => do return .ofAlternation (← exprList branches)

def exprList : List Ast → StateT Flags Option (List Expr)
  | [] => pure []
  | item :: items => do
      let item ← expr item
      return item :: (← exprList items)

end

/-- What a pattern means, if all of it has a meaning. -/
def expr? (ast : Ast) : Option Expr := (ast.expr.run .initial).map Prod.fst

end Ast

end NodeQuery.Regex
