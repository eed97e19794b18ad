import NodeQuery.Decimal.Text
import NodeQuery.Predicate.Expr
import NodeQuery.Text.Utf8

/-!
# Tokens of the predicate language

The longest lexeme at the head of the text is taken.  Blanks separate lexemes and are dropped.
-/

namespace NodeQuery.Predicate

/-- Blanks, tabs and line ends. -/
def isBlank (char : Char) : Bool :=
  char = ' ' || char = '\t' || char = '\r' || char = '\n'

/-- Characters that can start a name: ASCII letters and `_`. -/
def isNameStart (char : Char) : Bool := char.isAlpha || char = '_'

/-- Characters that can continue a name. -/
def isNamePart (char : Char) : Bool := isNameStart char || char.isDigit || char = '-'

/-- The smallest unit of a predicate. -/
inductive Lexeme where
  | compare (op : CompareOp)
  | andWord
  | andSign
  | orWord
  | orSign
  | notWord
  | notSign
  | trueWord
  | falseWord
  | nullWord
  | int (value : Int)
  /-- A number with a point, as written. -/
  | float (digits : String)
  /-- A string literal; the text that it denotes. -/
  | string (value : String)
  | name (text : String)
  | openParen
  | closeParen
  | openBracket
  | closeBracket
  | comma
  | dot
  deriving Repr, DecidableEq, Inhabited

namespace Lexeme

/-- The lexeme's kind in the words of an error message. -/
def description : Lexeme → String
  | .compare op => "`" ++ op.symbol ++ "`"
  | .andWord => "`and`"
  | .andSign => "`&&`"
  | .orWord => "`or`"
  | .orSign => "`||`"
  | .notWord => "`not`"
  | .notSign => "`!`"
  | .trueWord => "`true`"
  | .falseWord => "`false`"
  | .nullWord => "`null`"
  | .int _ => "integer"
  | .float _ => "float"
  | .string _ => "string"
  | .name _ => "identifier"
  | .openParen => "`(`"
  | .closeParen => "`)`"
  | .openBracket => "`[`"
  | .closeBracket => "`]`"
  | .comma => "`,`"
  | .dot => "`.`"

/-- The lexeme that a word stands for. -/
def ofWord (word : String) : Lexeme :=
  match word with
  | "and" => .andWord
  | "or" => .orWord
  | "not" => .notWord
  | "true" => .trueWord
  | "false" => .falseWord
  | "null" => .nullWord
  | other => .name other

/-- The character that a backslash and the given character denote. -/
def unescape : Char → Char
  | 'n' => '\n'
  | 't' => '\t'
  | 'r' => '\r'
  | '0' => '\x00'
  | char => char

/-- The text that a string literal denotes, and what follows it; `quote` has been read.  A newline
cannot be escaped. -/
def readString? (quote : Char) : List Char → Option (List Char × List Char)
  | [] => none
  | '\\' :: [] => none
  | '\\' :: char :: rest =>
      if char = '\n' then none
      else (readString? quote rest).map fun (text, rest) => (unescape char :: text, rest)
  | char :: rest =>
      if char = quote then some ([], rest)
      else (readString? quote rest).map fun (text, rest) => (char :: text, rest)

/-- The exponent at the head of a text, if there is a complete one, and what follows it. -/
def readExponent (chars : List Char) : List Char × List Char :=
  let digits (mark : List Char) (rest : List Char) : List Char × List Char :=
    if (rest.takeWhile Char.isDigit).isEmpty then ([], chars)
    else (mark ++ rest.takeWhile Char.isDigit, rest.dropWhile Char.isDigit)
  match chars with
  | 'e' :: '+' :: rest => digits ['e', '+'] rest
  | 'e' :: '-' :: rest => digits ['e', '-'] rest
  | 'e' :: rest => digits ['e'] rest
  | 'E' :: '+' :: rest => digits ['e', '+'] rest
  | 'E' :: '-' :: rest => digits ['e', '-'] rest
  | 'E' :: rest => digits ['e'] rest
  | _ => ([], chars)

/-- The number at the head of a text that starts with a digit, behind the sign if there is one. -/
def readNumber (negative : Bool) (chars : List Char) : Lexeme × List Char :=
  let whole := chars.takeWhile Char.isDigit
  let rest := chars.dropWhile Char.isDigit
  let fraction := rest.tail.takeWhile Char.isDigit
  if rest.head? = some '.' ∧ ¬ fraction.isEmpty then
    let (exponent, rest) := readExponent (rest.tail.dropWhile Char.isDigit)
    let sign := if negative then ['-'] else []
    (.float (String.ofList (sign ++ whole ++ '.' :: (fraction ++ exponent))), rest)
  else
    let value : Int := Decimal.digitValue whole
    (.int (if negative then -value else value), rest)

/-- The lexeme at the head of a text whose first character is `char`, and what follows it; the
character must not be blank. -/
def read? (char : Char) (rest : List Char) : Option (Lexeme × List Char) :=
  if isNameStart char then
    some (ofWord (String.ofList (char :: rest.takeWhile isNamePart)), rest.dropWhile isNamePart)
  else if char.isDigit then
    some (readNumber false (char :: rest))
  else
    match char, rest with
    | '=', '=' :: rest => some (.compare .eq, rest)
    | '=', '~' :: rest => some (.compare .matching, rest)
    | '!', '=' :: rest => some (.compare .ne, rest)
    | '!', '~' :: rest => some (.compare .notMatching, rest)
    | '!', rest => some (.notSign, rest)
    | '<', '=' :: rest => some (.compare .le, rest)
    | '<', rest => some (.compare .lt, rest)
    | '>', '=' :: rest => some (.compare .ge, rest)
    | '>', rest => some (.compare .gt, rest)
    | '^', '=' :: rest => some (.compare .startsWith, rest)
    | '$', '=' :: rest => some (.compare .endsWith, rest)
    | '*', '=' :: rest => some (.compare .contains, rest)
    | '&', '&' :: rest => some (.andSign, rest)
    | '|', '|' :: rest => some (.orSign, rest)
    | '(', rest => some (.openParen, rest)
    | ')', rest => some (.closeParen, rest)
    | '[', rest => some (.openBracket, rest)
    | ']', rest => some (.closeBracket, rest)
    | ',', rest => some (.comma, rest)
    | '.', rest => some (.dot, rest)
    | '-', digit :: rest => if digit.isDigit then some (readNumber true (digit :: rest)) else none
    | '"', rest =>
        (readString? '"' rest).map fun (text, rest) => (.string (String.ofList text), rest)
    | '\'', rest =>
        (readString? '\'' rest).map fun (text, rest) => (.string (String.ofList text), rest)
    | _, _ => none

theorem length_of_readString? {quote : Char} {chars text rest : List Char}
    (found : readString? quote chars = some (text, rest)) : rest.length < chars.length := by
  fun_induction readString? quote chars generalizing text with
  | case1 | case2 | case3 => simp at found
  | case4 char tail _ ih =>
      obtain ⟨⟨inner, _⟩, inside, equal⟩ := Option.map_eq_some_iff.1 found
      simp only [Prod.mk.injEq] at equal
      obtain ⟨_, rfl⟩ := equal
      have := ih inside
      simp; omega
  | case5 =>
      simp only [Option.some.injEq, Prod.mk.injEq] at found
      obtain ⟨_, rfl⟩ := found
      simp
  | case6 =>
      rename_i ih
      obtain ⟨⟨inner, _⟩, inside, equal⟩ := Option.map_eq_some_iff.1 found
      simp only [Prod.mk.injEq] at equal
      obtain ⟨_, rfl⟩ := equal
      have := ih inside
      simp; omega

theorem length_dropWhile_le (accept : Char → Bool) (chars : List Char) :
    (chars.dropWhile accept).length ≤ chars.length :=
  (List.dropWhile_suffix accept).length_le

theorem length_readExponent (chars : List Char) :
    (readExponent chars).2.length ≤ chars.length := by
  unfold readExponent
  have step (rest : List Char) (fits : rest.length ≤ chars.length) (mark : List Char) :
      (if (rest.takeWhile Char.isDigit).isEmpty then ([], chars)
        else (mark ++ rest.takeWhile Char.isDigit, rest.dropWhile Char.isDigit)).2.length ≤
        chars.length := by
    split
    · simp
    · exact Nat.le_trans (length_dropWhile_le _ _) fits
  split
  all_goals first
    | exact Nat.le_refl _
    | exact step _ (by simp only [List.length_cons]; omega) _

theorem length_readNumber (negative : Bool) (char : Char) (chars : List Char)
    (digit : char.isDigit) :
    (readNumber negative (char :: chars)).2.length ≤ chars.length := by
  unfold readNumber
  simp only [List.dropWhile_cons, digit, if_true]
  have dropped := length_dropWhile_le Char.isDigit chars
  split
  · refine Nat.le_trans (length_readExponent _) (Nat.le_trans (length_dropWhile_le _ _) ?_)
    simp; omega
  · exact dropped

theorem length_of_read? {char : Char} {chars rest : List Char} {lexeme : Lexeme}
    (found : read? char chars = some (lexeme, rest)) : rest.length ≤ chars.length := by
  unfold read? at found
  split at found
  · simp only [Option.some.injEq, Prod.mk.injEq] at found
    obtain ⟨_, rfl⟩ := found
    exact length_dropWhile_le _ _
  split at found
  · rename_i digit
    simp only [Option.some.injEq] at found
    have := length_readNumber false char chars digit
    rw [found] at this
    exact this
  split at found
  case h_21 =>
    split at found
    · rename_i digit
      simp only [Option.some.injEq] at found
      have shorter := length_readNumber true _ ‹List Char› digit
      rw [found] at shorter
      simp at shorter ⊢; omega
    · simp at found
  case h_22 | h_23 =>
    obtain ⟨⟨inner, _⟩, inside, equal⟩ := Option.map_eq_some_iff.1 found
    simp only [Prod.mk.injEq] at equal
    obtain ⟨_, rfl⟩ := equal
    exact Nat.le_of_lt (length_of_readString? inside)
  all_goals
    simp only [reduceCtorEq, Option.some.injEq, Prod.mk.injEq] at found
    try (obtain ⟨_, rfl⟩ := found; simp)

end Lexeme

/-- A lexeme and the bytes where it stands. -/
structure Token where
  lexeme : Lexeme
  start : Nat
  stop : Nat
  deriving Repr, DecidableEq, Inhabited

/-- A character with which no lexeme starts. -/
structure Token.Error where
  char : Char
  offset : Nat
  deriving Repr, DecidableEq

/-- The tokens of a text of which `offset` bytes have been read. -/
def Token.listFrom (offset : Nat) : (chars : List Char) → Except Token.Error (List Token)
  | [] => .ok []
  | char :: chars =>
      if isBlank char then Token.listFrom (offset + char.utf8Size) chars
      else
        match _found : Lexeme.read? char chars with
        | none => .error ⟨char, offset⟩
        | some (lexeme, rest) =>
            let stop := offset + (Utf8.size (char :: chars) - Utf8.size rest)
            match Token.listFrom stop rest with
            | .error error => .error error
            | .ok tokens => .ok (⟨lexeme, offset, stop⟩ :: tokens)
  termination_by chars => chars.length
  decreasing_by
    · simp
    · have := Lexeme.length_of_read? _found
      simp; omega

/-- The tokens of a predicate. -/
def Token.list (source : String) : Except Token.Error (List Token) :=
  Token.listFrom 0 source.toList

end NodeQuery.Predicate
