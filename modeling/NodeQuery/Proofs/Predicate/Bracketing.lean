import NodeQuery.Proofs.Predicate.Lexing
import NodeQuery.Proofs.Predicate.Recognition
import NodeQuery.Proofs.Selector.Positions
import NodeQuery.Query.Program

/-!
# Predicates between brackets

A predicate is written into a selector as it stands, between brackets.  The selector's lexemes do
not know those of predicates: where the body ends is found by counting brackets outside of string
literals.  A body that is a predicate always ends where it should.  Each of its lexemes changes the
count as a bracket or not at all, a string literal ends at the same quote for both readers, and the
grammar has its brackets in pairs.
-/

namespace NodeQuery

namespace Selector.Delimiters

/-! ## Stretches of a body -/

/-- Whatever follows the stretch, it becomes part of the body, and the scan goes on behind it with
another number of open pairs. -/
def Crosses (pair : Delimiters) (start : Nat) (stretch : List Char) (stop : Nat) : Prop :=
  ∀ rest, pair.splitFrom? start .outside (stretch ++ rest) =
    stretch.foldr keep (pair.splitFrom? stop .outside rest)

namespace Crosses

variable {pair : Delimiters} {start middle stop : Nat} {left right : List Char}

theorem nil (pair : Delimiters) (depth : Nat) : pair.Crosses depth [] depth :=
  fun _ => rfl

theorem append (first : pair.Crosses start left middle) (second : pair.Crosses middle right stop) :
    pair.Crosses start (left ++ right) stop := by
  intro rest
  rw [List.append_assoc, first, second, List.foldr_append]

end Crosses

theorem foldr_keep_some (stretch body rest : List Char) :
    stretch.foldr keep (some (body, rest)) = some (stretch ++ body, rest) := by
  induction stretch with
  | nil => rfl
  | cons char stretch ih => rw [List.foldr_cons, ih]; rfl

/-- A text without open pairs at its end is the whole body. -/
theorem encloses_of_crosses {body : String} (crosses : brackets.Crosses 0 body.toList 0) :
    brackets.Encloses body := by
  have closed : brackets.splitFrom? 0 .outside [brackets.closer] = some ([], []) := by decide
  rw [Encloses, split?, crosses, closed, foldr_keep_some, List.append_nil]

/-- The characters that mean something to the scan for the end of a predicate. -/
def special : List Char := ['"', '\'', '[', ']']

/-- Classes of characters without special ones. -/
theorem not_mem_special {accept : Char → Bool} (rejects : special.any accept = false)
    {char : Char} (accepted : accept char = true) : char ∉ special := by
  intro member
  exact List.any_eq_false.mp rejects char member accepted

theorem crosses_plain {char : Char} (plain : char ∉ special) (depth : Nat) :
    brackets.Crosses depth [char] depth := by
  intro rest
  simp only [special, List.mem_cons, List.not_mem_nil, or_false, not_or] at plain
  simp [splitFrom?, brackets, plain]

theorem crosses_open (depth : Nat) : brackets.Crosses depth ['['] (depth + 1) := by
  intro rest
  simp [splitFrom?, brackets]

theorem crosses_close (depth : Nat) : brackets.Crosses (depth + 1) [']'] depth := by
  intro rest
  simp [splitFrom?, brackets]

end Selector.Delimiters

namespace Predicate

open Selector (Delimiters)
open Selector.Delimiters

/-! ## Lexemes of predicates -/

namespace Lexeme

/-- A string literal ends at the same quote for both readers, and the characters in it, escaped or
not, mean nothing to the count of brackets. -/
theorem Denotes.splitFrom? {quote : Char} {literal text : List Char}
    (denotes : Denotes quote literal text) (escapes : quote ≠ '\\') (depth : Nat)
    (rest : List Char) :
    brackets.splitFrom? depth (.inside quote) (literal ++ rest) =
      literal.foldr keep (brackets.splitFrom? depth .outside rest) := by
  induction denotes with
  | close => simp [Delimiters.splitFrom?, escapes]
  | escape sameLine _ ih => simp [Delimiters.splitFrom?, ih]
  | plain plain differs _ ih => simp [Delimiters.splitFrom?, plain, differs, ih]

/-- What stands in front of the rest is a run without special characters. -/
inductive PlainUntil : List Char → List Char → Prop where
  | refl (chars : List Char) : PlainUntil chars chars
  | cons {char : Char} {chars rest : List Char} (plain : char ∉ special)
      (behind : PlainUntil chars rest) : PlainUntil (char :: chars) rest

namespace PlainUntil

variable {chars middle rest : List Char}

theorem trans (front : PlainUntil chars middle) (behind : PlainUntil middle rest) :
    PlainUntil chars rest := by
  induction front with
  | refl => exact behind
  | cons plain _ ih => exact .cons plain (ih behind)

theorem dropWhile {accept : Char → Bool} (rejects : special.any accept = false)
    (chars : List Char) : PlainUntil chars (chars.dropWhile accept) := by
  induction chars with
  | nil => exact .refl []
  | cons char chars ih =>
      rw [List.dropWhile_cons]
      split
      case isTrue accepted => exact .cons (not_mem_special rejects accepted) ih
      case isFalse => exact .refl _

theorem crosses (plain : PlainUntil chars rest) :
    ∃ stretch, chars = stretch ++ rest ∧ ∀ depth, brackets.Crosses depth stretch depth := by
  induction plain with
  | refl => exact ⟨[], rfl, .nil brackets⟩
  | @cons char _ _ plain _ ih =>
      rcases ih with ⟨stretch, rfl, crosses⟩
      exact ⟨char :: stretch, rfl, fun depth => (crosses_plain plain depth).append (crosses depth)⟩

theorem digits (chars : List Char) : PlainUntil chars (chars.dropWhile Char.isDigit) :=
  dropWhile (by decide) chars

theorem exponent (chars : List Char) : PlainUntil chars (readExponent chars).2 := by
  have behindMark (mark rest : List Char) (front : PlainUntil chars rest) :
      PlainUntil chars
        (if (rest.takeWhile Char.isDigit).isEmpty then ([], chars)
          else (mark ++ rest.takeWhile Char.isDigit, rest.dropWhile Char.isDigit)).2 := by
    split
    · exact .refl chars
    · exact front.trans (digits rest)
  unfold readExponent
  split
  case h_7 => exact .refl chars
  all_goals
    first
    | exact behindMark _ _ (.cons (by decide) (.cons (by decide) (.refl _)))
    | exact behindMark _ _ (.cons (by decide) (.refl _))

theorem number (negative : Bool) (chars : List Char) :
    PlainUntil chars (readNumber negative chars).2 := by
  have whole := digits chars
  unfold readNumber
  dsimp only
  split
  case isTrue point =>
      rcases point with ⟨point, _⟩
      obtain ⟨fraction, shape⟩ := List.head?_eq_some_iff.mp point
      rw [shape] at whole ⊢
      have behind := (digits fraction).trans (exponent _)
      exact whole.trans (.cons (by decide) behind)
  case isFalse => exact whole

end PlainUntil

/-- The number of open brackets behind the lexeme, if it closes none that is not open. -/
def shift? : Lexeme → (depth : Nat) → Option Nat
  | .openBracket, depth => some (depth + 1)
  | .closeBracket, 0 => none
  | .closeBracket, depth + 1 => some depth
  | _, depth => some depth

/-- The lexeme is no bracket. -/
def Neutral (lexeme : Lexeme) : Prop := ∀ depth, lexeme.shift? depth = some depth

/-- The text starts with the lexeme, and in front of the rest the scan for the end of a predicate
counts what the lexeme says. -/
def Scans (lexeme : Lexeme) (text rest : List Char) : Prop :=
  ∃ stretch, text = stretch ++ rest ∧
    ∀ start stop, lexeme.shift? start = some stop → brackets.Crosses start stretch stop

theorem Scans.of_neutral {lexeme : Lexeme} {text rest : List Char} (neutral : lexeme.Neutral)
    (crosses : ∃ stretch, text = stretch ++ rest ∧ ∀ depth, brackets.Crosses depth stretch depth) :
    lexeme.Scans text rest := by
  rcases crosses with ⟨stretch, shape, crosses⟩
  refine ⟨stretch, shape, ?_⟩
  intro start stop shifted
  rw [neutral, Option.some.injEq] at shifted
  exact shifted ▸ crosses start

theorem Scans.of_plain {lexeme : Lexeme} {text rest : List Char} (neutral : lexeme.Neutral)
    (plain : PlainUntil text rest) : lexeme.Scans text rest :=
  .of_neutral neutral plain.crosses

theorem neutral_ofWord (word : String) : (ofWord word).Neutral := by
  intro depth
  unfold ofWord
  split <;> rfl

theorem neutral_readNumber (negative : Bool) (chars : List Char) :
    (readNumber negative chars).1.Neutral := by
  intro depth
  unfold readNumber
  dsimp only
  split <;> rfl

theorem scans_number {negative : Bool} {chars text rest : List Char} {lexeme : Lexeme}
    (found : readNumber negative chars = (lexeme, rest)) (front : PlainUntil text chars) :
    lexeme.Scans text rest := by
  have neutral := neutral_readNumber negative chars
  have plain := PlainUntil.number negative chars
  rw [found] at neutral plain
  exact .of_plain neutral (front.trans plain)

theorem scans_string {quote : Char} {chars text rest : List Char}
    (found : readString? quote chars = some (text, rest)) (isQuote : quote = '"' ∨ quote = '\'') :
    Scans (.string (String.ofList text)) (quote :: chars) rest := by
  have escapes : quote ≠ '\\' := by rcases isQuote with rfl | rfl <;> decide
  rcases denotes_of_readString? found with ⟨literal, denotes, rfl⟩
  refine .of_neutral (fun _ => rfl) ⟨quote :: literal, rfl, ?_⟩
  intro depth other
  have inside := congrArg (keep quote) (denotes.splitFrom? escapes depth other)
  simpa [splitFrom?, brackets, isQuote] using inside

/-- Every lexeme that can be read counts as the grammar has it. -/
theorem scans_of_read? {char : Char} {chars rest : List Char} {lexeme : Lexeme}
    (found : read? char chars = some (lexeme, rest)) : lexeme.Scans (char :: chars) rest := by
  cases heads_of_read? found with
  | word start =>
      have first : char ∉ special := not_mem_special (by decide) start
      exact .of_plain (neutral_ofWord _) (.cons first (.dropWhile (by decide) chars))
  | number numeric read => exact scans_number read (.refl _)
  | negative numeric read => exact scans_number read (.cons (by decide) (.refl _))
  | string mark read => exact scans_string read mark
  | double sign =>
      cases sign <;>
        exact .of_plain (fun _ => rfl) (.cons (by decide) (.cons (by decide) (.refl _)))
  | single sign =>
      cases sign with
      | openBracket =>
          refine ⟨['['], rfl, ?_⟩
          intro start stop shifted
          cases shifted
          exact crosses_open start
      | closeBracket =>
          refine ⟨[']'], rfl, ?_⟩
          intro start stop shifted
          cases start with
          | zero => cases shifted
          | succ depth =>
              cases shifted
              exact crosses_close _
      | _ => exact .of_plain (fun _ => rfl) (.cons (by decide) (.refl _))

/-! ## Rows of lexemes -/

/-- The number of open brackets behind a row, if it closes none that is not open. -/
def shiftAll? (depth : Nat) (row : List Lexeme) : Option Nat :=
  row.foldlM (fun depth lexeme => lexeme.shift? depth) depth

/-- The row has its brackets in pairs. -/
def Balanced (row : List Lexeme) : Prop := ∀ depth, shiftAll? depth row = some depth

end Lexeme

/-- The scan for the end of a predicate counts over a text what its lexemes say. -/
theorem Token.Listing.crosses {offset start stop : Nat} {chars : List Char}
    {tokens : List Token} (listing : Listing offset chars tokens)
    (counted : Lexeme.shiftAll? start (tokens.map Token.lexeme) = some stop) :
    brackets.Crosses start chars stop := by
  induction listing generalizing start with
  | nil =>
      cases counted
      exact .nil brackets _
  | @blank _ char _ _ blank _ ih =>
      have plain : char ∉ special := not_mem_special (by decide) blank
      exact (crosses_plain plain _).append (ih counted)
  | @token _ char stretch _ _ _ visible read _ ih =>
      rw [List.map_cons, Lexeme.shiftAll?, List.foldlM_cons] at counted
      obtain ⟨middle, first, behind⟩ := Option.bind_eq_some_iff.mp counted
      rcases Lexeme.scans_of_read? read with ⟨scanned, shape, crosses⟩
      obtain rfl : char :: stretch = scanned := List.append_cancel_right shape
      exact (crosses _ middle first).append (ih behind)

namespace Lexeme.Balanced

variable {left right row : List Lexeme} {lexeme : Lexeme}

theorem nil : Balanced [] := fun _ => rfl

theorem append (balancedLeft : Balanced left) (balancedRight : Balanced right) :
    Balanced (left ++ right) := by
  intro depth
  rw [shiftAll?, List.foldlM_append, ← shiftAll?, balancedLeft]
  exact balancedRight depth

theorem cons (neutral : lexeme.Neutral) (balanced : Balanced row) : Balanced (lexeme :: row) := by
  intro depth
  rw [shiftAll?, List.foldlM_cons, neutral]
  exact balanced depth

theorem singleton (neutral : lexeme.Neutral) : Balanced [lexeme] := .cons neutral .nil

/-- A pair of brackets around a balanced row. -/
theorem enclose (balanced : Balanced row) :
    Balanced (.openBracket :: (row ++ [.closeBracket])) := by
  intro depth
  have inside : shiftAll? (depth + 1) (row ++ [.closeBracket]) = some depth := by
    rw [shiftAll?, List.foldlM_append, ← shiftAll?, balanced]
    rfl
  exact inside

end Lexeme.Balanced

/-! ## The grammar -/

namespace Grammar

open Lexeme (Balanced)

theorem Literal.balanced {lexeme : Lexeme} {value : Value} (literal : Literal lexeme value) :
    Balanced [lexeme] := by
  cases literal <;> exact .singleton fun _ => rfl

theorem Path.balanced {lexemes : List Lexeme} {segments : List String}
    (path : Path lexemes segments) : Balanced lexemes := by
  induction path with
  | one name => exact .singleton fun _ => rfl
  | more path name ih => exact ih.append (.cons (fun _ => rfl) (.singleton fun _ => rfl))

theorem OrSign.neutral {sign : Lexeme} (joint : OrSign sign) : sign.Neutral := by
  cases joint <;> exact fun _ => rfl

theorem AndSign.neutral {sign : Lexeme} (joint : AndSign sign) : sign.Neutral := by
  cases joint <;> exact fun _ => rfl

theorem NotSign.neutral {sign : Lexeme} (symbol : NotSign sign) : sign.Neutral := by
  cases symbol <;> exact fun _ => rfl

mutual

theorem Expression.balanced {lexemes : List Lexeme} {expr : Expr} {nesting : Nat}
    (expression : Expression lexemes expr nesting) : Balanced lexemes := by
  match expression with
  | .nested disjunction => exact disjunction.balanced

theorem Disjunction.balanced {lexemes : List Lexeme} {expr : Expr} {nesting : Nat}
    (disjunction : Disjunction lexemes expr nesting) : Balanced lexemes := by
  match disjunction with
  | .one conjunction => exact conjunction.balanced
  | .more before joint behind =>
      exact before.balanced.append (.cons joint.neutral behind.balanced)

theorem Conjunction.balanced {lexemes : List Lexeme} {expr : Expr} {nesting : Nat}
    (conjunction : Conjunction lexemes expr nesting) : Balanced lexemes := by
  match conjunction with
  | .one negation => exact negation.balanced
  | .more before joint behind =>
      exact before.balanced.append (.cons joint.neutral behind.balanced)

theorem Negation.balanced {lexemes : List Lexeme} {expr : Expr} {nesting : Nat}
    (negation : Negation lexemes expr nesting) : Balanced lexemes := by
  match negation with
  | .none comparison => exact comparison.balanced
  | .not symbol negation => exact .cons symbol.neutral negation.balanced

theorem Comparison.balanced {lexemes : List Lexeme} {expr : Expr} {nesting : Nat}
    (comparison : Comparison lexemes expr nesting) : Balanced lexemes := by
  match comparison with
  | .none indexing => exact indexing.balanced
  | .compare before op behind => exact before.balanced.append (.cons (fun _ => rfl) behind.balanced)

theorem Indexing.balanced {lexemes : List Lexeme} {expr : Expr} {nesting : Nat}
    (indexing : Indexing lexemes expr nesting) : Balanced lexemes := by
  match indexing with
  | .none operand => exact operand.balanced
  | .index before inside => exact before.balanced.append inside.balanced.enclose

theorem Operand.balanced {lexemes : List Lexeme} {expr : Expr} {nesting : Nat}
    (operand : Operand lexemes expr nesting) : Balanced lexemes := by
  -- Parentheses come in pairs too, but nobody counts them.
  have close : Balanced [.closeParen] := .singleton fun _ => rfl
  match operand with
  | .literal literal => exact literal.balanced
  | .path path => exact path.balanced
  | .call name items =>
      exact .cons (fun _ => rfl) (.cons (fun _ => rfl) (items.balanced.append close))
  | .parenthesis inside => exact .cons (fun _ => rfl) (inside.balanced.append close)
  | .list items => exact items.balanced.enclose

theorem Items.balanced {lexemes : List Lexeme} {exprs : List Expr} {nesting : Nat}
    (items : Items lexemes exprs nesting) : Balanced lexemes := by
  match items with
  | .none => exact .nil
  | .some elements => exact elements.balanced

theorem Elements.balanced {lexemes : List Lexeme} {exprs : List Expr} {nesting : Nat}
    (elements : Elements lexemes exprs nesting) : Balanced lexemes := by
  match elements with
  | .one expression => exact expression.balanced
  | .more before behind => exact before.balanced.append (.cons (fun _ => rfl) behind.balanced)

end

end Grammar

/-- What can be read as a predicate can stand between brackets. -/
theorem encloses_of_parse {body : String} {limit : Nat} {expr : Expr}
    (read : parse body limit = .ok expr) : brackets.Encloses body := by
  simp only [parse, bind_eq_ok, mapError_eq_ok, ofTokens_eq_ok_iff] at read
  rcases read with ⟨tokens, listed, nesting, fits, expression⟩
  exact encloses_of_crosses ((Token.listing_of_listFrom listed).crosses (expression.balanced 0))

end Predicate

/-! ## Predicates in selectors -/

/-- An enclosed body between brackets is one token. -/
theorem Selector.Token.list_of_encloses {body : String}
    (encloses : Selector.Delimiters.brackets.Encloses body) :
    Selector.Token.list ("[" ++ body ++ "]") =
      .ok [⟨.predicate body, .origin, Utf8.size ("[" ++ body ++ "]").toList⟩] := by
  have wellFormed : Selector.Lexeme.WellFormed (.predicate body) := encloses
  have ends : Selector.Lexeme.EndsBefore ([] : List Char).head? (.predicate body) := trivial
  have listed := Selector.Token.listFrom_text wellFormed ends .origin
  rw [List.append_nil, Selector.Token.listFrom] at listed
  refine listed.trans ?_
  rw [Place.offset_after]
  simp [Except.map, Place.origin, Selector.Lexeme.text]

/-- A text that is a predicate can be written between brackets as it stands.  The whole is read as
one token and as one test, and the compiled test evaluates the expression that the text stands for
by itself. -/
theorem compile_bracketed_predicate {body : String} {limit : Nat} {expr : Predicate.Expr}
    (read : Predicate.parse body limit = .ok expr) :
    let text := "[" ++ body ++ "]"
    let predicate : Predicate.Compiled := ⟨body, .ok expr, expr.patterns⟩
    Selector.Token.list text = .ok [⟨.predicate body, .origin, Utf8.size text.toList⟩] ∧
      Selector.parse text = .ok ⟨[⟨[.predicate body]⟩]⟩ ∧
      (∃ program, Program.compile text limit = .ok program ∧
        program.groups = [[.predicate predicate]]) ∧
      ∀ view, predicate.matches? view = (expr.eval expr.patterns view).map Value.isTruthy := by
  intro text predicate
  have listed := Selector.Token.list_of_encloses (Predicate.encloses_of_parse read)
  have parsed : Selector.parse text = .ok ⟨[⟨[.predicate body]⟩]⟩ := by
    rw [Selector.parse, listed]
    rfl
  have compiled : Predicate.Compiled.ofBody body limit = predicate := by
    rw [Predicate.Compiled.ofBody, read]
  refine ⟨listed, parsed, ⟨.ofSelector text ⟨[⟨[.predicate body]⟩]⟩ limit, ?_, ?_⟩, ?_⟩
  · rw [Program.compile, parsed]
    rfl
  · simp [Program.ofSelector, Step.ofOperation, compiled]
  · intro view
    change (expr.eval expr.patterns view >>= fun value => .ok value.isTruthy) = _
    cases expr.eval expr.patterns view <;> rfl

/-- Brackets stand inside brackets and in literals of both kinds, and so do escaped quotes. -/
theorem compile_bracketed_predicate_with_literals :
    let body := "x[']'][[1, 2][0]] == \"[\\\"'\""
    let expr : Predicate.Expr := .compare .eq
      (.index (.index (.path ["x"]) (.literal (.string "]")))
        (.index (.list [.literal (.int 1), .literal (.int 2)]) (.literal (.int 0))))
      (.literal (.string "[\"'"))
    Predicate.parse body 3 = .ok expr ∧
      Selector.parse "[x[']'][[1, 2][0]] == \"[\\\"'\"]" = .ok ⟨[⟨[.predicate body]⟩]⟩ := by
  intro body expr
  have listed : Predicate.Token.list body = .ok [⟨.name "x", 0, 1⟩, ⟨.openBracket, 1, 2⟩,
      ⟨.string "]", 2, 5⟩, ⟨.closeBracket, 5, 6⟩, ⟨.openBracket, 6, 7⟩, ⟨.openBracket, 7, 8⟩,
      ⟨.int 1, 8, 9⟩, ⟨.comma, 9, 10⟩, ⟨.int 2, 11, 12⟩, ⟨.closeBracket, 12, 13⟩,
      ⟨.openBracket, 13, 14⟩, ⟨.int 0, 14, 15⟩, ⟨.closeBracket, 15, 16⟩, ⟨.closeBracket, 16, 17⟩,
      ⟨.compare .eq, 18, 20⟩, ⟨.string "[\"'", 21, 27⟩] := by decide +kernel
  have read : Predicate.parse body 3 = .ok expr := by
    rw [Predicate.parse, listed]
    rfl
  exact ⟨read, (compile_bracketed_predicate read).2.1⟩

end NodeQuery
