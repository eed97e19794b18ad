/-!
# The syntax of patterns

A pattern is read into a tree, `Ast`, that keeps what its author wrote: the flags still stand where
they were set, and a character class is still a term over its members.  What a pattern means under
the flags that are in force is not decided here.
-/

namespace NodeQuery.Regex

/-- The deepest nesting of groups, classes and operators that a pattern may have. -/
def nestLimit : Nat := 250

/-- What is wrong with the text of a pattern. -/
inductive Fault where
  | unclosedGroup
  | unopenedGroup
  | unclosedName
  | invalidNameCharacter
  | emptyName
  | duplicateName
  | unknownFlag
  | duplicateFlag
  | repeatedNegation
  | danglingNegation
  | flagAtEnd
  | lookAround
  | missingOperand
  | unclosedCount
  | noDecimal
  | largeDecimal
  | invertedCount
  | incompleteEscape
  | unknownEscape
  | backreference
  | invalidDigit
  | emptyHexadecimal
  | noCharacter
  | invalidProperty
  | openBoundary
  | unclosedBoundary
  | unknownBoundary
  | unclosedClass
  | invertedRange
  | rangeBoundary
  | classEscape
  | tooDeep
  deriving Repr, DecidableEq

def Fault.message : Fault → String
  | .unclosedGroup => "unclosed group"
  | .unopenedGroup => "unopened group"
  | .unclosedName => "unclosed capture group name"
  | .invalidNameCharacter => "invalid capture group character"
  | .emptyName => "empty capture group name"
  | .duplicateName => "duplicate capture group name"
  | .unknownFlag => "unrecognized flag"
  | .duplicateFlag => "duplicate flag"
  | .repeatedNegation => "flag negation operator repeated"
  | .danglingNegation => "dangling flag negation operator"
  | .flagAtEnd => "expected flag but got end of regex"
  | .lookAround => "look-around, including look-ahead and look-behind, is not supported"
  | .missingOperand => "repetition operator missing expression"
  | .unclosedCount => "unclosed counted repetition"
  | .noDecimal => "repetition quantifier expects a valid decimal"
  | .largeDecimal => "decimal literal invalid"
  | .invertedCount => "invalid repetition count range, the start must be <= the end"
  | .incompleteEscape => "incomplete escape sequence, reached end of pattern prematurely"
  | .unknownEscape => "unrecognized escape sequence"
  | .backreference => "backreferences are not supported"
  | .invalidDigit => "invalid hexadecimal digit"
  | .emptyHexadecimal => "hexadecimal literal empty"
  | .noCharacter => "hexadecimal literal is not a Unicode scalar value"
  | .invalidProperty => "invalid Unicode character class"
  | .openBoundary =>
      "found either the beginning of a special word boundary or a bounded repetition on a \\b " ++
        "with an opening brace, but no closing brace"
  | .unclosedBoundary =>
      "special word boundary assertion is either unclosed or contains an invalid character"
  | .unknownBoundary =>
      "unrecognized special word boundary assertion, valid choices are: start, end, start-half " ++
        "or end-half"
  | .unclosedClass => "unclosed character class"
  | .invertedRange => "invalid character class range, the start must be <= the end"
  | .rangeBoundary => "invalid range boundary, must be a literal"
  | .classEscape => "invalid escape sequence found in character class"
  | .tooDeep =>
      "exceed the maximum number of nested parentheses/brackets (" ++ toString nestLimit ++ ")"

/-- A switch that changes what the pattern behind it means. -/
inductive Flag where
  | ignoreCase
  /-- `^` and `$` match at line ends. -/
  | multiLine
  /-- `.` matches line ends. -/
  | dotAll
  /-- Exchanges greedy and lazy repetition. -/
  | swapGreed
  | unicode
  /-- A line ends with `\r`, `\n` or `\r\n`. -/
  | crlf
  /-- Blanks and comments in the pattern have no meaning. -/
  | verbose
  deriving Repr, DecidableEq

def Flag.ofChar? : Char → Option Flag
  | 'i' => some .ignoreCase
  | 'm' => some .multiLine
  | 's' => some .dotAll
  | 'U' => some .swapGreed
  | 'u' => some .unicode
  | 'R' => some .crlf
  | 'x' => some .verbose
  | _ => none

/-- Flags that are switched on or off together; none stands twice. -/
abbrev Settings := List (Flag × Bool)

/-- A character that stands for itself. -/
structure Literal where
  char : Char
  /-- Written as the two hexadecimal digits of a byte. -/
  isByte : Bool
  deriving Repr, DecidableEq

/-- Where word characters and other characters meet. -/
inductive Boundary where
  | word
  | notWord
  | start
  | stop
  | startHalf
  | stopHalf
  deriving Repr, DecidableEq, Hashable

/-- The boundary with the given name in braces. -/
def Boundary.ofName? : String → Option Boundary
  | "start" => some .start
  | "end" => some .stop
  | "start-half" => some .startHalf
  | "end-half" => some .stopHalf
  | _ => none

/-- A condition on the place between two characters. -/
inductive Assertion where
  | startLine
  | stopLine
  | startText
  | stopText
  | boundary (boundary : Boundary)
  deriving Repr, DecidableEq

/-- The classes with an escape of their own. -/
inductive EscapedClass where
  | digit
  | space
  | word
  deriving Repr, DecidableEq

/-- The ASCII classes that are named inside brackets. -/
inductive NamedClass where
  | alnum
  | alpha
  | ascii
  | blank
  | cntrl
  | digit
  | graph
  | lower
  | print
  | punct
  | space
  | upper
  | word
  | xdigit
  deriving Repr, DecidableEq

def NamedClass.ofName? : String → Option NamedClass
  | "alnum" => some .alnum
  | "alpha" => some .alpha
  | "ascii" => some .ascii
  | "blank" => some .blank
  | "cntrl" => some .cntrl
  | "digit" => some .digit
  | "graph" => some .graph
  | "lower" => some .lower
  | "print" => some .print
  | "punct" => some .punct
  | "space" => some .space
  | "upper" => some .upper
  | "word" => some .word
  | "xdigit" => some .xdigit
  | _ => none

/-- A character property as a pattern names it. -/
inductive Property where
  /-- A name that says all: a property that a character has or has not, a category or a script. -/
  | named (name : String)
  /-- A property and the value that it has to have. -/
  | valued (name : String) (value : String)
  deriving Repr, DecidableEq

/-- What matches one character or one place. -/
inductive Atom where
  | literal (literal : Literal)
  | dot
  | assertion (assertion : Assertion)
  | escaped (kind : EscapedClass) (negated : Bool)
  | property (property : Property) (negated : Bool)
  deriving Repr, DecidableEq

/-- The operators between classes. -/
inductive ClassOp where
  | inter
  | diff
  | symmDiff
  deriving Repr, DecidableEq

/-- A set of characters as it is written between brackets. -/
inductive ClassTerm where
  | literal (literal : Literal)
  | range (first : Literal) (last : Literal)
  | named (kind : NamedClass) (negated : Bool)
  | escaped (kind : EscapedClass) (negated : Bool)
  | property (property : Property) (negated : Bool)
  | bracket (negated : Bool) (term : ClassTerm)
  /-- Members that stand side by side. -/
  | union (items : List ClassTerm)
  | combine (op : ClassOp) (left : ClassTerm) (right : ClassTerm)
  deriving Repr

/-- What a group does. -/
inductive GroupKind where
  /-- Captures what it matches; groups are numbered from 1. -/
  | capture (index : Nat)
  /-- Sets flags for what stands in it. -/
  | scope (settings : Settings)
  deriving Repr, DecidableEq

/-- A pattern as it is written. -/
inductive Ast where
  | empty
  /-- Sets flags for what follows. -/
  | settings (settings : Settings)
  | atom (atom : Atom)
  | bracket (negated : Bool) (term : ClassTerm)
  | repetition (min : Nat) (max : Option Nat) (greedy : Bool) (body : Ast)
  | group (kind : GroupKind) (body : Ast)
  | concat (items : List Ast)
  | alternation (branches : List Ast)
  deriving Repr

namespace ClassTerm

/-- The set of members that stand side by side. -/
def ofItems : List ClassTerm → ClassTerm
  | [item] => item
  | items => .union items

/-- The set that an escape stands for inside brackets, if it stands for one. -/
def ofAtom? : Atom → Option ClassTerm
  | .literal written => some (.literal written)
  | .escaped kind negated => some (.escaped kind negated)
  | .property query negated => some (.property query negated)
  | .dot => none
  | .assertion _ => none

mutual

/-- How deep a term nests. -/
def depth : ClassTerm → Nat
  | .bracket _ term => 1 + depth term
  | .union [] => 0
  | .union (item :: items) => 1 + max (depth item) (listDepth items)
  | .combine _ left right => 1 + max (depth left) (depth right)
  | _ => 0

def listDepth : List ClassTerm → Nat
  | [] => 0
  | item :: items => max (depth item) (listDepth items)

end

end ClassTerm

namespace Ast

/-- The pattern whose items follow each other. -/
def ofItems : List Ast → Ast
  | [] => .empty
  | [item] => item
  | items => .concat items

/-- The pattern with the given branches. -/
def ofBranches : List Ast → Ast
  | [branch] => branch
  | branches => .alternation branches

mutual

/-- How deep a pattern nests. -/
def depth : Ast → Nat
  | .bracket _ term => 1 + term.depth
  | .repetition _ _ _ body => 1 + depth body
  | .group _ body => 1 + depth body
  | .concat items => 1 + listDepth items
  | .alternation branches => 1 + listDepth branches
  | _ => 0

def listDepth : List Ast → Nat
  | [] => 0
  | item :: items => max (depth item) (listDepth items)

end

end Ast

end NodeQuery.Regex
