import NodeQuery.Diagnostic
import NodeQuery.Selector.Basic
import NodeQuery.Selector.Token

/-!
# Errors of selector texts

`SyntaxError.Cause` lists what can be wrong with a selector text; its wording is in one place,
`SyntaxError.message`.
-/

namespace NodeQuery.Selector

/-- The character in front of a name that makes it something other than a tag. -/
inductive Sigil where
  | hash
  | dot
  | colon
  deriving Repr, DecidableEq, Inhabited

def Sigil.symbol : Sigil → String
  | .hash => "#"
  | .dot => "."
  | .colon => ":"

/-- What would have been acceptable where an error is found. -/
inductive Expectation where
  | selector
  /-- A step behind an explicit combinator. -/
  | stepAfter (link : Combinator)
  /-- A further group behind a comma at the end of the text. -/
  | groupAfterComma
  | nameAfter (sigil : Sigil)
  /-- The end of a step, which `*` always is. -/
  | endAfterStar
  deriving Repr, DecidableEq, Inhabited

def Expectation.description : Expectation → String
  | .selector => "selector"
  | .stepAfter link => "selector after `" ++ link.symbol ++ "`"
  | .groupAfterComma => "selector after `,`"
  | .nameAfter sigil => "identifier after `" ++ sigil.symbol ++ "`"
  | .endAfterStar => "combinator or `,` after `*`"

namespace SyntaxError

/-- What is wrong with a selector text. -/
inductive Cause where
  /-- The text cannot be cut into lexemes. -/
  | lexical (fault : Lexeme.Fault)
  /-- A lexeme, or the end of the text, stands where something else is required. -/
  | expected (expectation : Expectation) (found : Option Lexeme)
  /-- An argument list does not follow a name behind a colon. -/
  | strayArguments
  deriving Repr, DecidableEq

end SyntaxError

/-- A fault of a selector text, the bytes it is about and the place where they start. -/
structure SyntaxError where
  cause : SyntaxError.Cause
  place : Place
  stop : Nat
  deriving Repr, DecidableEq

namespace SyntaxError

def span (error : SyntaxError) : Span := ⟨error.place.offset, error.stop⟩

def message (error : SyntaxError) : String :=
  match error.cause with
  | .lexical (.unexpected char) => "unexpected character `" ++ String.singleton char ++ "`"
  | .lexical (.unclosed pair) =>
      "unclosed `" ++ String.singleton pair.opener ++ "`, expected matching `" ++
        String.singleton pair.closer ++ "`"
  | .expected expectation found =>
      "expected " ++ expectation.description ++ ", found " ++
        match found with
        | some lexeme => lexeme.description
        | none => "end of input"
  | .strayArguments => "argument list must follow a `:name` function"

/-- The error in the form in which it is shown. -/
def diagnostic (error : SyntaxError) : Diagnostic :=
  ⟨error.message, error.span, error.place.line, error.place.column⟩

def ofLexical (error : Token.Error) : SyntaxError :=
  ⟨.lexical error.fault, error.place, error.stop⟩

/-- An error about one token. -/
def atToken (cause : Cause) (token : Token) : SyntaxError :=
  ⟨cause, token.place, token.stop⟩

/-- An error about the end of the text, which stands at `place`. -/
def atEnd (cause : Cause) (place : Place) : SyntaxError :=
  ⟨cause, place, place.offset⟩

end SyntaxError

end NodeQuery.Selector
