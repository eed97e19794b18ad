import NodeQuery.Source

/-!
# Tokens of the selector language

A selector text is cut into lexemes without gaps.  Blanks are lexemes too, because a blank between
two steps is a combinator.  A predicate in brackets and an argument list in parentheses are one
lexeme each: `Delimiters.split?` looks for the delimiter that closes the first one.
-/

namespace NodeQuery.Selector

/-- An opening and a closing character, and whether quotes hide them. -/
structure Delimiters where
  opener : Char
  closer : Char
  quoted : Bool
  deriving Repr, DecidableEq

namespace Delimiters

/-- The delimiters of a predicate; those inside a string literal do not count. -/
def brackets : Delimiters := ⟨'[', ']', true⟩

/-- The delimiters of an argument list, where quotes have no meaning. -/
def parentheses : Delimiters := ⟨'(', ')', false⟩

/-- Where a character of a body stands with respect to string literals. -/
inductive Quoting where
  | outside
  | inside (quote : Char)
  /-- Behind a backslash of the literal. -/
  | escaped (quote : Char)
  deriving Repr, DecidableEq

/-- Puts one more character in front of the body of a split. -/
def keep (char : Char) : Option (List Char × List Char) → Option (List Char × List Char)
  | some (body, rest) => some (char :: body, rest)
  | none => none

/-- Splits a text at the closer that brings `depth` further open pairs and the one around the
text to their ends. -/
def splitFrom? (pair : Delimiters) :
    (depth : Nat) → Quoting → List Char → Option (List Char × List Char)
  | _, _, [] => none
  | depth, .escaped quote, char :: rest =>
      keep char (pair.splitFrom? depth (.inside quote) rest)
  | depth, .inside quote, char :: rest =>
      if char = '\\' then keep char (pair.splitFrom? depth (.escaped quote) rest)
      else if char = quote then keep char (pair.splitFrom? depth .outside rest)
      else keep char (pair.splitFrom? depth (.inside quote) rest)
  | depth, .outside, char :: rest =>
      if pair.quoted ∧ (char = '"' ∨ char = '\'') then
        keep char (pair.splitFrom? depth (.inside char) rest)
      else if char = pair.opener then
        keep char (pair.splitFrom? (depth + 1) .outside rest)
      else if char = pair.closer then
        match depth with
        | 0 => some ([], rest)
        | depth + 1 => keep char (pair.splitFrom? depth .outside rest)
      else keep char (pair.splitFrom? depth .outside rest)

/-- The text behind an opener, split into the body and what follows the matching closer. -/
def split? (pair : Delimiters) (chars : List Char) : Option (List Char × List Char) :=
  pair.splitFrom? 0 .outside chars

theorem cons_eq_of_keep {pair : Delimiters} {char : Char}
    {split : Option (List Char × List Char)} {tail body rest : List Char}
    (kept : keep char split = some (body, rest))
    (ih : ∀ {inner : List Char}, split = some (inner, rest) →
      tail = inner ++ pair.closer :: rest) :
    char :: tail = body ++ pair.closer :: rest := by
  cases split with
  | none => simp [keep] at kept
  | some parts =>
      simp only [keep, Option.some.injEq, Prod.mk.injEq] at kept
      obtain ⟨rfl, rfl⟩ := kept
      simp [ih rfl]

/-- A split loses nothing but the closer. -/
theorem eq_of_splitFrom? {pair : Delimiters} {depth : Nat} {quoting : Quoting}
    {chars body rest : List Char}
    (found : pair.splitFrom? depth quoting chars = some (body, rest)) :
    chars = body ++ pair.closer :: rest := by
  fun_induction splitFrom? pair depth quoting chars generalizing body with
  | case1 => simp at found
  | case8 =>
      simp only [Option.some.injEq, Prod.mk.injEq] at found
      obtain ⟨rfl, rfl⟩ := found
      rfl
  | _ => exact cons_eq_of_keep found (by assumption)

end Delimiters

/-- Blanks, tabs and line ends. -/
def isBlank (char : Char) : Bool :=
  char = ' ' || char = '\t' || char = '\r' || char = '\n'

/-- Characters that can start a name: ASCII letters, `_` and `-`. -/
def isNameStart (char : Char) : Bool :=
  char.isAlpha || char = '_' || char = '-'

/-- Characters that can continue a name. -/
def isNamePart (char : Char) : Bool :=
  isNameStart char || char.isDigit

/-- The smallest unit of a selector text. -/
inductive Lexeme where
  /-- A run of blanks, as written. -/
  | blank (text : String)
  | comma
  | star
  | dot
  | hash
  | plus
  | greater
  | tilde
  | colon
  | name (text : String)
  /-- A predicate; the text between its brackets. -/
  | predicate (body : String)
  /-- An argument list; the text between its parentheses. -/
  | arguments (body : String)
  deriving Repr, DecidableEq, Inhabited

namespace Lexeme

/-- The lexeme as it stands in the source. -/
def text : Lexeme → String
  | .blank text => text
  | .comma => ","
  | .star => "*"
  | .dot => "."
  | .hash => "#"
  | .plus => "+"
  | .greater => ">"
  | .tilde => "~"
  | .colon => ":"
  | .name text => text
  | .predicate body => "[" ++ body ++ "]"
  | .arguments body => "(" ++ body ++ ")"

/-- What a lexeme holds besides its kind. -/
def value? : Lexeme → Option String
  | .name text => some text
  | .predicate body => some body
  | .arguments body => some body
  | _ => none

/-- The lexeme's kind in the words of an error message. -/
def description : Lexeme → String
  | .blank _ => "whitespace"
  | .comma => "`,`"
  | .star => "`*`"
  | .dot => "`.`"
  | .hash => "`#`"
  | .plus => "`+`"
  | .greater => "`>`"
  | .tilde => "`~`"
  | .colon => "`:`"
  | .name _ => "identifier"
  | .predicate _ => "predicate"
  | .arguments _ => "argument list"

/-- Whether the lexeme is a combinator by itself; a blank is one only between two steps. -/
def isCombinator : Lexeme → Bool
  | .plus | .greater | .tilde => true
  | _ => false

/-- Why no lexeme could be read. -/
inductive Fault where
  /-- No lexeme starts with the character. -/
  | unexpected (char : Char)
  /-- The opener has no matching closer. -/
  | unclosed (pair : Delimiters)
  deriving Repr, DecidableEq

/-- The lexeme at the head of a text whose first character is `char`, and the text behind it. -/
def read (char : Char) (rest : List Char) : Except Fault (Lexeme × List Char) :=
  if isBlank char then
    .ok (.blank (String.ofList (char :: rest.takeWhile isBlank)), rest.dropWhile isBlank)
  else if isNameStart char then
    .ok (.name (String.ofList (char :: rest.takeWhile isNamePart)), rest.dropWhile isNamePart)
  else
    match char with
    | ',' => .ok (.comma, rest)
    | '*' => .ok (.star, rest)
    | '.' => .ok (.dot, rest)
    | '#' => .ok (.hash, rest)
    | '+' => .ok (.plus, rest)
    | '>' => .ok (.greater, rest)
    | '~' => .ok (.tilde, rest)
    | ':' => .ok (.colon, rest)
    | '[' =>
        match Delimiters.brackets.split? rest with
        | some (body, rest) => .ok (.predicate (String.ofList body), rest)
        | none => .error (.unclosed .brackets)
    | '(' =>
        match Delimiters.parentheses.split? rest with
        | some (body, rest) => .ok (.arguments (String.ofList body), rest)
        | none => .error (.unclosed .parentheses)
    | _ => .error (.unexpected char)

/-- Reading a lexeme takes its text off the front. -/
theorem text_append_of_read {char : Char} {chars rest : List Char} {lexeme : Lexeme}
    (found : read char chars = .ok (lexeme, rest)) :
    lexeme.text.toList ++ rest = char :: chars := by
  unfold read at found
  split at found
  · simp only [Except.ok.injEq, Prod.mk.injEq] at found
    obtain ⟨rfl, rfl⟩ := found
    simp [text]
  split at found
  · simp only [Except.ok.injEq, Prod.mk.injEq] at found
    obtain ⟨rfl, rfl⟩ := found
    simp [text]
  split at found
  case h_9 | h_10 =>
    split at found
    · rename_i split
      simp only [Except.ok.injEq, Prod.mk.injEq] at found
      obtain ⟨rfl, rfl⟩ := found
      simp [text, Delimiters.eq_of_splitFrom? split, Delimiters.brackets,
        Delimiters.parentheses]
    · simp at found
  all_goals
    simp only [reduceCtorEq, Except.ok.injEq, Prod.mk.injEq] at found
    try (obtain ⟨rfl, rfl⟩ := found; simp [text])

theorem length_of_read {char : Char} {chars rest : List Char} {lexeme : Lexeme}
    (found : read char chars = .ok (lexeme, rest)) : rest.length ≤ chars.length := by
  have := congrArg List.length (text_append_of_read found)
  have nonempty : 0 < lexeme.text.toList.length := by
    unfold read at found
    repeat' split at found
    all_goals
      simp only [reduceCtorEq, Except.ok.injEq, Prod.mk.injEq] at found
      try (obtain ⟨rfl, rfl⟩ := found; simp [text])
  simp at this nonempty
  omega

end Lexeme

/-- A lexeme and where it stands. -/
structure Token where
  lexeme : Lexeme
  /-- The place of the first character. -/
  place : Place
  /-- The byte offset behind the last character. -/
  stop : Nat
  deriving Repr, DecidableEq, Inhabited

/-- The bytes of a token. -/
def Token.span (token : Token) : Span := ⟨token.place.offset, token.stop⟩

/-- Why a text is not a row of lexemes, and where that shows. -/
structure Token.Error where
  fault : Lexeme.Fault
  place : Place
  stop : Nat
  deriving Repr, DecidableEq

/-- The tokens of the rest of a text, the first of which stands at `place`. -/
def Token.listFrom (place : Place) : (chars : List Char) → Except Token.Error (List Token)
  | [] => .ok []
  | char :: chars =>
      match _found : Lexeme.read char chars with
      | .error fault =>
          .error ⟨fault, place,
            match fault with
            | .unexpected char => (place.next char).offset
            | .unclosed _ => (place.after (char :: chars)).offset⟩
      | .ok (lexeme, rest) =>
          let behind := place.after lexeme.text.toList
          match Token.listFrom behind rest with
          | .error error => .error error
          | .ok tokens => .ok (⟨lexeme, place, behind.offset⟩ :: tokens)
  termination_by chars => chars.length
  decreasing_by
    have := Lexeme.length_of_read _found
    simp; omega

/-- The tokens of a text; they cover it from its start to its end. -/
def Token.list (source : String) : Except Token.Error (List Token) :=
  Token.listFrom .origin source.toList

end NodeQuery.Selector
