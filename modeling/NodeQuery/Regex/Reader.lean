import NodeQuery.Decimal.Text
import NodeQuery.Regex.Syntax
import NodeQuery.Text.Blank
import NodeQuery.Unicode.Category
import NodeQuery.Unicode.Property

/-!
# Reading the parts of patterns

A reader takes characters from the front of the text.  The first fault from the left ends the
reading.  Where a pattern is verbose, blanks and comments behind a character are skipped with it;
a comment goes from `#` to the end of its line.
-/

namespace NodeQuery.Regex

open Text (isBlank)

/-- Drops blanks and comments; `comment` says whether the text starts in a comment. -/
def dropBlanks : (comment : Bool) → List Char → List Char
  | _, [] => []
  | false, char :: rest =>
      if isBlank char then dropBlanks false rest
      else if char = '#' then dropBlanks true rest
      else char :: rest
  | true, char :: rest => dropBlanks (char ≠ '\n') rest

theorem length_dropBlanks_le (comment : Bool) (chars : List Char) :
    (dropBlanks comment chars).length ≤ chars.length := by
  induction chars generalizing comment with
  | nil => cases comment <;> simp [dropBlanks]
  | cons char rest ih =>
      cases comment with
      | true => simpa [dropBlanks] using Nat.le_succ_of_le (ih _)
      | false =>
          simp only [dropBlanks]
          split
          · exact Nat.le_succ_of_le (ih _)
          · split
            · exact Nat.le_succ_of_le (ih _)
            · exact Nat.le_refl _

/-- Drops blanks and comments if they have no meaning. -/
def skipBlanks (verbose : Bool) (chars : List Char) : List Char :=
  if verbose then dropBlanks false chars else chars

theorem length_skipBlanks_le (verbose : Bool) (chars : List Char) :
    (skipBlanks verbose chars).length ≤ chars.length := by
  unfold skipBlanks
  split
  · exact length_dropBlanks_le false chars
  · exact Nat.le_refl _

/-- The longest run of accepted characters without the blanks between them, and what follows. -/
def spanSkipping (verbose : Bool) (accept : Char → Bool) (chars : List Char) :
    List Char × List Char :=
  match chars with
  | [] => ([], [])
  | char :: rest =>
      if accept char then
        let (run, rest) := spanSkipping verbose accept (skipBlanks verbose rest)
        (char :: run, rest)
      else
        ([], char :: rest)
termination_by chars.length
decreasing_by exact Nat.lt_succ_of_le (length_skipBlanks_le verbose rest)

/-- What takes a part of a pattern from the front of a text. -/
abbrev Reader := StateT (List Char) (Except Fault)

namespace Reader

/-- The next character, which stays in the text. -/
def next? : Reader (Option Char) := do return (← get).head?

/-- The next character, which stays in the text; at the end of the text a fault. -/
def peek (fault : Fault) : Reader Char := do
  match (← get).head? with
  | some char => pure char
  | none => throw fault

/-- Drops the next character. -/
def advance : Reader Unit := modify List.tail

/-- Drops the next character and the blanks behind it. -/
def step (verbose : Bool) : Reader Unit :=
  modify fun chars => skipBlanks verbose chars.tail

/-- Takes the longest run of accepted characters. -/
def run (verbose : Bool) (accept : Char → Bool) : Reader (List Char) := do
  let (run, rest) := spanSkipping verbose accept (← get)
  set rest
  return run

/-- Drops a text that may stand next; says whether it did. -/
def accept (text : String) : Reader Bool := do
  let chars ← get
  if text.toList.isPrefixOf chars then
    set (chars.drop text.length)
    return true
  else
    return false

/-- The value of an option, or a fault. -/
def require {α : Type} (value? : Option α) (fault : Fault) : Reader α :=
  match value? with
  | some value => pure value
  | none => throw fault

/-- Fails with a fault if a condition holds. -/
def refuse (condition : Bool) (fault : Fault) : Reader Unit :=
  if condition then throw fault else pure ()

end Reader

open Reader

/-! ## Escapes -/

def isHexDigit (char : Char) : Bool :=
  char.isDigit || ('a' ≤ char && char ≤ 'f') || ('A' ≤ char && char ≤ 'F')

/-- The number that hexadecimal digits denote. -/
def hexValue (digits : List Char) : Nat :=
  digits.foldl (fun value digit => value * 16 + Unicode.hexDigit digit.toLower) 0

/-- The character with the code that hexadecimal digits denote. -/
def readCode (digits : List Char) : Reader Char :=
  let code := hexValue digits
  if code.isValidChar then pure (Char.ofNat code) else throw .noCharacter

/-- The given number of hexadecimal digits, blanks between them. -/
def readHexDigits (verbose : Bool) : Nat → Reader (List Char)
  | 0 => pure []
  | count + 1 => do
      let digit ← peek .incompleteEscape
      refuse (!isHexDigit digit) .invalidDigit
      step verbose
      return digit :: (← readHexDigits verbose count)

/-- The rest of an escape with `count` hexadecimal digits, or with any number of them in braces;
the letter of the escape stands next. -/
def readHexadecimal (verbose : Bool) (count : Nat) : Reader Literal := do
  step verbose
  let char ← peek .incompleteEscape
  if char = '{' then
    step verbose
    let digits ← run verbose isHexDigit
    let char ← peek .incompleteEscape
    refuse (char ≠ '}') .invalidDigit
    step verbose
    refuse digits.isEmpty .emptyHexadecimal
    return ⟨← readCode digits, false⟩
  else
    let digits ← readHexDigits verbose count
    return ⟨← readCode digits, count = 2⟩

/-- The parts of a text around the first occurrence of another. -/
def splitAtFirst? (separator : List Char) : List Char → Option (List Char × List Char)
  | [] => none
  | char :: rest =>
      if separator.isPrefixOf (char :: rest) then some ([], (char :: rest).drop separator.length)
      else (splitAtFirst? separator rest).map fun (before, after) => (char :: before, after)

/-- The property that the text between braces names.  A sign between name and value only parts
them: `!=` is looked for first, then `:`, then `=`. -/
def Property.ofText (text : List Char) : Property :=
  let parts? := (splitAtFirst? ['!', '='] text).or
    ((splitAtFirst? [':'] text).or (splitAtFirst? ['='] text))
  match parts? with
  | some (name, value) => .valued (.ofList name) (.ofList value)
  | none => .named (.ofList text)

/-- The rest of an escape for a property; its letter stands next. -/
def readProperty (verbose : Bool) : Reader Property := do
  step verbose
  let char ← peek .incompleteEscape
  if char = '{' then
    step verbose
    let text ← run verbose (· ≠ '}')
    let _ ← peek .incompleteEscape
    advance
    return .ofText text
  else
    refuse (char = '\\') .invalidProperty
    step verbose
    return .named (.singleton char)

/-- The characters of the names of boundaries. -/
def isBoundaryPart (char : Char) : Bool := char.isAlpha || char = '-'

/-- The boundary of an escape whose letter has been taken: a name in braces may follow.  Braces
that do not start with the character of a name belong to a repetition. -/
def readBoundary (verbose : Bool) : Reader Boundary := do
  let chars ← get
  if (← next?) = some '{' then
    step verbose
    let char ← peek .openBoundary
    if isBoundaryPart char then
      let name ← run verbose isBoundaryPart
      refuse ((← next?) ≠ some '}') .unclosedBoundary
      advance
      require (Boundary.ofName? (.ofList name)) .unknownBoundary
    else
      set chars
      return .word
  else
    return .word

/-- The characters with a meaning of their own, which a backslash takes away. -/
def isMeta (char : Char) : Bool := "\\.+*?()|[]\x7b\x7d^$#&-~".toList.contains char

/-- The characters that stand for themselves behind a backslash: those of ASCII that are no
letters, no digits and no angle brackets. -/
def isEscapable (char : Char) : Bool :=
  isMeta char || (char.toNat < 128 && !char.isAlphanum && char ≠ '<' && char ≠ '>')

/-- The rest of an escape, the letter of which has been taken. -/
def readLetterEscape (verbose : Bool) (letter : Char) : Reader Atom :=
  let control (char : Char) : Reader Atom := pure (.literal ⟨char, false⟩)
  let place (assertion : Assertion) : Reader Atom := pure (.assertion assertion)
  if isEscapable letter then control letter
  else
    match letter with
    | 'a' => control '\x07'
    | 'f' => control '\x0c'
    | 't' => control '\t'
    | 'n' => control '\n'
    | 'r' => control '\r'
    | 'v' => control '\x0b'
    | 'A' => place .startText
    | 'z' => place .stopText
    | 'b' => do return .assertion (.boundary (← readBoundary verbose))
    | 'B' => place (.boundary .notWord)
    | '<' => place (.boundary .start)
    | '>' => place (.boundary .stop)
    | _ => throw .unknownEscape

/-- An escape; its backslash stands next. -/
def readEscape (verbose : Bool) : Reader Atom := do
  advance
  let letter ← peek .incompleteEscape
  let escaped (kind : EscapedClass) (negated : Bool) : Reader Atom := do
    advance
    return .escaped kind negated
  refuse letter.isDigit .backreference
  match letter with
  | 'x' => return .literal (← readHexadecimal verbose 2)
  | 'u' => return .literal (← readHexadecimal verbose 4)
  | 'U' => return .literal (← readHexadecimal verbose 8)
  | 'p' => return .property (← readProperty verbose) false
  | 'P' => return .property (← readProperty verbose) true
  | 'd' => escaped .digit false
  | 's' => escaped .space false
  | 'w' => escaped .word false
  | 'D' => escaped .digit true
  | 'S' => escaped .space true
  | 'W' => escaped .word true
  | _ => do
      advance
      readLetterEscape verbose letter

/-! ## Counts, flags and names -/

/-- A decimal number with blanks around it, or what is wrong with it. -/
def readDecimal (verbose : Bool) : Reader (Except Fault Nat) := do
  modify (List.dropWhile isBlank)
  let digits ← run verbose Char.isDigit
  modify (List.dropWhile isBlank)
  if digits.isEmpty then return .error .noDecimal
  let value := Decimal.digitValue digits
  if value < Nat.pow 2 32 then return .ok value
  return .error .largeDecimal

/-- Says whether a `?` follows, which makes a repetition lazy. -/
def readGreed : Reader Bool := do
  if (← next?) = some '?' then
    advance
    return false
  else
    return true

/-- The bounds of a counted repetition and whether it is greedy; its brace stands next. -/
def readCount (verbose : Bool) : Reader (Nat × Option Nat × Bool) := do
  step verbose
  let _ ← peek .unclosedCount
  let first ← readDecimal verbose
  let char ← peek .unclosedCount
  let (min, max) ← show Reader (Nat × Option Nat) from
    if char = ',' then do
      step verbose
      let char ← peek .unclosedCount
      let min ← first
      if char = '}' then return (min, none)
      else return (min, some (← (← readDecimal verbose)))
    else do
      let min ← first
      return (min, some min)
  refuse ((← next?) ≠ some '}') .unclosedCount
  step verbose
  let greedy ← readGreed
  refuse (max.any (· < min)) .invertedCount
  return (min, max, greedy)

/-- Flags up to the character that ends them, which stays in the text; `settings` holds the flags
so far, the latest first.  Flags behind `-` are switched off. -/
def readFlags (settings : Settings) (negated dangling : Bool) :
    List Char → Except Fault (Settings × List Char)
  | [] => .error .flagAtEnd
  | char :: rest =>
      if char = ':' || char = ')' then
        if dangling then .error .danglingNegation else .ok (settings.reverse, char :: rest)
      else if char = '-' then
        if negated then .error .repeatedNegation else readFlags settings true true rest
      else
        match Flag.ofChar? char with
        | none => .error .unknownFlag
        | some flag =>
            if (settings.lookup flag).isSome then .error .duplicateFlag
            else readFlags ((flag, !negated) :: settings) negated false rest

/-- The letters and letter-like characters. -/
def alphabetic : RangeSet := Unicode.properties.get "Alphabetic"

/-- The characters of all number categories. -/
def numeric : RangeSet := Unicode.categories.unionWhere fun name => ["Nd", "Nl", "No"].contains name

/-- Whether a character may stand in the name of a group; `first` says whether it stands at the
front. -/
def isNameCharacter (first : Bool) (char : Char) : Bool :=
  char = '_' || alphabetic.contains char.toNat ||
    (!first && (char = '.' || char = '[' || char = ']' || numeric.contains char.toNat))

/-- The name of a group up to `>`; `name` holds the characters so far, the latest first. -/
def readName (name : List Char) : List Char → Except Fault (List Char × List Char)
  | [] => .error .unclosedName
  | char :: rest =>
      if char = '>' then .ok (name.reverse, rest)
      else if isNameCharacter name.isEmpty char then readName (char :: name) rest
      else .error .invalidNameCharacter

end NodeQuery.Regex
