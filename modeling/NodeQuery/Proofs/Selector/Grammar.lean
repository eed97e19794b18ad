import NodeQuery.Selector.Token
import NodeQuery.Selector.Basic

/-!
# The grammar of selectors

Each nonterminal is a relation between a row of lexemes and what it stands for.  Repetitions grow
at their ends, in the order in which a text is read.
-/

namespace NodeQuery.Selector.Grammar

/-- Blanks that have no meaning, or nothing at all. -/
inductive Padding : List Lexeme → Prop where
  | none : Padding []
  | blank (text : String) : Padding [.blank text]

/-- One test.  No other rule has an argument list, so one that follows a name behind a colon always
belongs to it. -/
inductive Simple : List Lexeme → Operation → Prop where
  | any : Simple [.star] .any
  | tag (name : String) : Simple [.name name] (.tag name)
  | id (name : String) : Simple [.hash, .name name] (.id name)
  | class (name : String) : Simple [.dot, .name name] (.class name)
  | predicate (body : String) : Simple [.predicate body] (.predicate body)
  | pseudo (name : String) : Simple [.colon, .name name] (.pseudo name)
  | function (name args : String) :
      Simple [.colon, .name name, .arguments args] (.function name args)

/-- Some tests of which only the last can be `*`. -/
inductive Step : List Lexeme → List Operation → Prop where
  | one {lexemes : List Lexeme} {test : Operation} (simple : Simple lexemes test) :
      Step lexemes [test]
  | more {before lexemes : List Lexeme} {tests : List Operation} {test : Operation}
      (step : Step before tests) (noStar : .any ∉ tests) (simple : Simple lexemes test) :
      Step (before ++ lexemes) (tests ++ [test])

/-- The lexemes that are combinators by themselves. -/
inductive Sign : Lexeme → Combinator → Prop where
  | greater : Sign .greater .child
  | tilde : Sign .tilde .sibling
  | plus : Sign .plus .adjacent

/-- What stands between two steps. -/
inductive Link : List Lexeme → Combinator → Prop where
  | descendant (text : String) : Link [.blank text] .descendant
  | explicit {left right : List Lexeme} {sign : Lexeme} {link : Combinator}
      (before : Padding left) (symbol : Sign sign link) (behind : Padding right) :
      Link (left ++ sign :: right) link

/-- Some steps with a combinator between each two. -/
inductive Chain : List Lexeme → List Operation → Prop where
  | one {lexemes : List Lexeme} {tests : List Operation} (step : Step lexemes tests) :
      Chain lexemes tests
  | more {before between lexemes : List Lexeme} {operations tests : List Operation}
      {link : Combinator} (chain : Chain before operations) (joint : Link between link)
      (step : Step lexemes tests) :
      Chain (before ++ between ++ lexemes) (operations ++ .combinator link :: tests)

/-- One alternative of a selector. -/
inductive Alternative : List Lexeme → Group → Prop where
  | padded {left middle right : List Lexeme} {operations : List Operation}
      (before : Padding left) (chain : Chain middle operations) (behind : Padding right) :
      Alternative (left ++ middle ++ right) ⟨operations⟩

/-- Some alternatives with a comma between each two. -/
inductive Alternatives : List Lexeme → List Group → Prop where
  | one {lexemes : List Lexeme} {group : Group} (alternative : Alternative lexemes group) :
      Alternatives lexemes [group]
  | more {before lexemes : List Lexeme} {groups : List Group} {group : Group}
      (alternatives : Alternatives before groups) (alternative : Alternative lexemes group) :
      Alternatives (before ++ .comma :: lexemes) (groups ++ [group])

/-- The row of lexemes stands for the selector. -/
inductive Derives : List Lexeme → Selector → Prop where
  | empty {lexemes : List Lexeme} (padding : Padding lexemes) : Derives lexemes ⟨[]⟩
  | groups {lexemes : List Lexeme} {groups : List Group}
      (alternatives : Alternatives lexemes groups) : Derives lexemes ⟨groups⟩

end NodeQuery.Selector.Grammar
