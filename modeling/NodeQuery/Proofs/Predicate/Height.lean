import NodeQuery.Proofs.Predicate.Lexing
import NodeQuery.Proofs.Predicate.Recognition

/-!
# How high expressions grow

Whatever follows an expression downwards, as evaluation does, goes as deep as the expression is
high.  The nesting limit counts brackets and negations, but `or`, `and` and positions also make an
expression higher when several of them stand in a row, and these rows are not counted.  So the
limit bounds the height only together with the length of the rows; by itself it bounds nothing.
-/

namespace NodeQuery.Predicate

namespace Expr

/-! ## Height and chains -/

mutual

/-- The number of expressions on the longest way down. -/
def height : Expr → Nat
  | .literal _ => 1
  | .path _ => 1
  | .list items => heightAll items + 1
  | .index target position => max target.height position.height + 1
  | .call _ args => heightAll args + 1
  | .not operand => operand.height + 1
  | .and left right => max left.height right.height + 1
  | .or left right => max left.height right.height + 1
  | .compare _ left right => max left.height right.height + 1

def heightAll : List Expr → Nat
  | [] => 0
  | item :: items => max item.height (heightAll items)

end

/-- What can be written in a row without brackets and is grouped to the left. -/
inductive Joint where
  | or
  | and
  | index
  deriving DecidableEq

/-- How many joints of the given kind stand in a row at the end of the expression. -/
def chain (joint : Joint) : Expr → Nat
  | .or left _ => if joint = .or then chain joint left + 1 else 0
  | .and left _ => if joint = .and then chain joint left + 1 else 0
  | .index target _ => if joint = .index then chain joint target + 1 else 0
  | _ => 0

mutual

/-- The longest row of joints of one kind anywhere in the expression. -/
def longestChain : Expr → Nat
  | .literal _ => 0
  | .path _ => 0
  | .list items => longestChainAll items
  | .index target position =>
      max (chain .index target + 1) (max target.longestChain position.longestChain)
  | .call _ args => longestChainAll args
  | .not operand => operand.longestChain
  | .and left right => max (chain .and left + 1) (max left.longestChain right.longestChain)
  | .or left right => max (chain .or left + 1) (max left.longestChain right.longestChain)
  | .compare _ left right => max left.longestChain right.longestChain

def longestChainAll : List Expr → Nat
  | [] => 0
  | item :: items => max item.longestChain (longestChainAll items)

end

theorem chain_le_longestChain (joint : Joint) (expr : Expr) :
    expr.chain joint ≤ expr.longestChain := by
  cases expr with
  | or left right =>
      rw [longestChain]
      cases joint <;> simp only [chain, reduceCtorEq, if_true, if_false] <;> omega
  | and left right =>
      rw [longestChain]
      cases joint <;> simp only [chain, reduceCtorEq, if_true, if_false] <;> omega
  | index target position =>
      rw [longestChain]
      cases joint <;> simp only [chain, reduceCtorEq, if_true, if_false] <;> omega
  | _ => simp [chain]

theorem heightAll_append_singleton (items : List Expr) (item : Expr) :
    heightAll (items ++ [item]) = max (heightAll items) item.height := by
  induction items with
  | nil => simp [heightAll]
  | cons first items ih => simp [heightAll, ih, Nat.max_assoc]

theorem longestChainAll_append_singleton (items : List Expr) (item : Expr) :
    longestChainAll (items ++ [item]) = max (longestChainAll items) item.longestChain := by
  induction items with
  | nil => simp [longestChainAll]
  | cons first items ih => simp [longestChainAll, ih, Nat.max_assoc]

end Expr

/-! ## The bound -/

/-- The height of what nests as deep as given, if no row of joints is longer than `width`: each
level has room for a row of each kind, a comparison, and an operand. -/
def heightUnder (width nesting : Nat) : Nat := (3 * width + 2) * nesting

theorem heightUnder_succ (width nesting : Nat) :
    heightUnder width (nesting + 1) = heightUnder width nesting + (3 * width + 2) :=
  Nat.mul_succ _ _

theorem heightUnder_max (width left right : Nat) :
    heightUnder width (max left right) = max (heightUnder width left) (heightUnder width right) :=
  Nat.mul_max_mul_left _ _ _ |>.symm

namespace Grammar

open Predicate.Expr (chain_le_longestChain)

variable {width : Nat}

mutual

theorem Expression.height_le {lexemes : List Lexeme} {expr : Expr} {nesting : Nat}
    (expression : Expression lexemes expr nesting) (chains : expr.longestChain ≤ width) :
    expr.height ≤ heightUnder width nesting := by
  match expression with
  | .nested disjunction =>
      have below := disjunction.height_le chains
      have row := chain_le_longestChain .or expr
      rw [heightUnder_succ]
      omega

theorem Disjunction.height_le {lexemes : List Lexeme} {expr : Expr} {nesting : Nat}
    (disjunction : Disjunction lexemes expr nesting) (chains : expr.longestChain ≤ width) :
    expr.height ≤ heightUnder width nesting + 2 * width + 2 + expr.chain .or := by
  match disjunction with
  | .one conjunction =>
      have below := conjunction.height_le chains
      have row := chain_le_longestChain .and expr
      omega
  | .more before joint behind =>
      simp only [Expr.longestChain, Nat.max_le] at chains
      have front := before.height_le chains.2.1
      have last := behind.height_le chains.2.2
      have row := Nat.le_trans (chain_le_longestChain .and _) chains.2.2
      simp only [Expr.height, Expr.chain, if_true, heightUnder_max]
      omega

theorem Conjunction.height_le {lexemes : List Lexeme} {expr : Expr} {nesting : Nat}
    (conjunction : Conjunction lexemes expr nesting) (chains : expr.longestChain ≤ width) :
    expr.height ≤ heightUnder width nesting + width + 2 + expr.chain .and := by
  match conjunction with
  | .one negation => exact Nat.le_add_right_of_le (negation.height_le chains)
  | .more before joint behind =>
      simp only [Expr.longestChain, Nat.max_le] at chains
      have front := before.height_le chains.2.1
      have last := behind.height_le chains.2.2
      simp only [Expr.height, Expr.chain, if_true, heightUnder_max]
      omega

theorem Negation.height_le {lexemes : List Lexeme} {expr : Expr} {nesting : Nat}
    (negation : Negation lexemes expr nesting) (chains : expr.longestChain ≤ width) :
    expr.height ≤ heightUnder width nesting + width + 2 := by
  match negation with
  | .none comparison => exact comparison.height_le chains
  | .not symbol negation =>
      have below := negation.height_le chains
      rw [Expr.height, heightUnder_succ]
      omega

theorem Comparison.height_le {lexemes : List Lexeme} {expr : Expr} {nesting : Nat}
    (comparison : Comparison lexemes expr nesting) (chains : expr.longestChain ≤ width) :
    expr.height ≤ heightUnder width nesting + width + 2 := by
  match comparison with
  | .none indexing =>
      have below := indexing.height_le chains
      have row := chain_le_longestChain .index expr
      omega
  | .compare before op behind =>
      simp only [Expr.longestChain, Nat.max_le] at chains
      have front := before.height_le chains.1
      have frontRow := Nat.le_trans (chain_le_longestChain .index _) chains.1
      have last := behind.height_le chains.2
      have lastRow := Nat.le_trans (chain_le_longestChain .index _) chains.2
      simp only [Expr.height, heightUnder_max]
      omega

theorem Indexing.height_le {lexemes : List Lexeme} {expr : Expr} {nesting : Nat}
    (indexing : Indexing lexemes expr nesting) (chains : expr.longestChain ≤ width) :
    expr.height ≤ heightUnder width nesting + 1 + expr.chain .index := by
  match indexing with
  | .none operand => exact Nat.le_add_right_of_le (operand.height_le chains)
  | .index before inside =>
      simp only [Expr.longestChain, Nat.max_le] at chains
      have front := before.height_le chains.2.1
      have position := inside.height_le chains.2.2
      simp only [Expr.height, Expr.chain, if_true, heightUnder_max]
      omega

theorem Operand.height_le {lexemes : List Lexeme} {expr : Expr} {nesting : Nat}
    (operand : Operand lexemes expr nesting) (chains : expr.longestChain ≤ width) :
    expr.height ≤ heightUnder width nesting + 1 := by
  match operand with
  | .literal literal => exact Nat.le_add_left 1 _
  | .path path => exact Nat.le_add_left 1 _
  | .call name items => exact Nat.succ_le_succ (items.height_le chains)
  | .parenthesis inside => exact Nat.le_succ_of_le (inside.height_le chains)
  | .list items => exact Nat.succ_le_succ (items.height_le chains)

theorem Items.height_le {lexemes : List Lexeme} {exprs : List Expr} {nesting : Nat}
    (items : Items lexemes exprs nesting) (chains : Expr.longestChainAll exprs ≤ width) :
    Expr.heightAll exprs ≤ heightUnder width nesting := by
  match items with
  | .none => exact Nat.zero_le _
  | .some elements => exact elements.height_le chains

theorem Elements.height_le {lexemes : List Lexeme} {exprs : List Expr} {nesting : Nat}
    (elements : Elements lexemes exprs nesting) (chains : Expr.longestChainAll exprs ≤ width) :
    Expr.heightAll exprs ≤ heightUnder width nesting := by
  match elements with
  | .one expression =>
      simp only [Expr.longestChainAll, Nat.max_zero] at chains
      simpa only [Expr.heightAll, Nat.max_zero] using expression.height_le chains
  | .more before behind =>
      rw [Expr.longestChainAll_append_singleton, Nat.max_le] at chains
      have front := before.height_le chains.1
      have last := behind.height_le chains.2
      rw [Expr.heightAll_append_singleton, heightUnder_max]
      omega

end

end Grammar

/-- Under a nesting limit, only rows of joints let an expression grow. -/
theorem height_le_of_parse {source : String} {limit : Nat} {expr : Expr}
    (read : parse source limit = .ok expr) {width : Nat} (chains : expr.longestChain ≤ width) :
    expr.height ≤ (3 * width + 2) * limit := by
  simp only [parse, bind_eq_ok, mapError_eq_ok, ofTokens_eq_ok_iff] at read
  rcases read with ⟨tokens, listed, nesting, fits, expression⟩
  exact Nat.le_trans (expression.height_le chains) (Nat.mul_le_mul_left _ fits)

/-! ## Rows of any length -/

/-- The name `x` with itself as an alternative, as often as given. -/
def alternatives : Nat → Expr
  | 0 => .path ["x"]
  | count + 1 => .or (alternatives count) (.path ["x"])

theorem height_alternatives (count : Nat) : (alternatives count).height = count + 1 := by
  induction count with
  | zero => rfl
  | succ count ih => simp only [alternatives, Expr.height, ih]; omega

namespace Grammar

/-- The lexemes of the alternatives. -/
def alternativesRow : Nat → List Lexeme
  | 0 => [.name "x"]
  | count + 1 => .name "x" :: .orSign :: alternativesRow count

theorem alternativesRow_succ (count : Nat) :
    alternativesRow (count + 1) = alternativesRow count ++ [.orSign, .name "x"] := by
  induction count with
  | zero => rfl
  | succ count ih => exact congrArg (fun row => .name "x" :: .orSign :: row) ih

theorem Disjunction.alternatives (count : Nat) :
    Disjunction (alternativesRow count) (alternatives count) 0 := by
  have negation : Negation [.name "x"] (.path ["x"]) 0 := .none (.none (.none (.path (.one "x"))))
  induction count with
  | zero => exact .one (.one negation)
  | succ count ih =>
      rw [alternativesRow_succ]
      exact .more ih .sign (.one negation)

end Grammar

/-- The text consists of these lexemes, wherever it stands. -/
def Lists (chars : List Char) (row : List Lexeme) : Prop :=
  ∀ offset, ∃ tokens, Token.listFrom offset chars = .ok tokens ∧ tokens.map Token.lexeme = row

theorem Lists.nil : Lists [] [] := fun _ => ⟨[], by simp [Token.listFrom], rfl⟩

theorem Lists.cons {char : Char} {chars rest : List Char} {lexeme : Lexeme} {row : List Lexeme}
    (visible : isBlank char = false) (found : Lexeme.read? char chars = some (lexeme, rest))
    (behind : Lists rest row) : Lists (char :: chars) (lexeme :: row) := by
  intro offset
  obtain ⟨stretch, rfl⟩ := Lexeme.suffix_of_read? found
  let stop := offset + Utf8.size (char :: stretch)
  obtain ⟨tokens, listed, lexemes⟩ := behind stop
  refine ⟨⟨lexeme, offset, stop⟩ :: tokens, ?_, congrArg (lexeme :: ·) lexemes⟩
  rw [Token.listFrom_token offset visible found, listed]
  rfl

/-- The alternatives as they are written. -/
def alternativesText : Nat → List Char
  | 0 => ['x']
  | count + 1 => 'x' :: '|' :: '|' :: alternativesText count

theorem lists_alternativesText (count : Nat) :
    Lists (alternativesText count) (Grammar.alternativesRow count) := by
  have name : Lexeme.ofWord (String.ofList ['x']) = .name "x" := by decide
  induction count with
  | zero => exact .cons rfl (congrArg (fun word => some (word, [])) name) .nil
  | succ count ih =>
      exact .cons rfl (congrArg (fun word => some (word, _)) name) (.cons rfl rfl ih)

/-- The least limit there is admits alternatives in any number. -/
theorem parse_alternatives {limit : Nat} (positive : 0 < limit) (count : Nat) :
    parse (String.ofList (alternativesText count)) limit = .ok (alternatives count) := by
  obtain ⟨tokens, listed, lexemes⟩ := lists_alternativesText count 0
  simp only [parse, bind_eq_ok, mapError_eq_ok, ofTokens_eq_ok_iff, Token.list,
    String.toList_ofList]
  refine ⟨tokens, listed, 1, positive, ?_⟩
  rw [lexemes]
  exact .nested (Grammar.Disjunction.alternatives count)

/-- The nesting limit does not bound the height, and so neither the depth of an evaluation: an
expression grows with its rows of joints, whatever the limit.  Rows of at most two joints keep it
below eight times the limit. -/
theorem height_bounded_by_rows (limit : Nat) :
    (∀ source expr, parse source limit = .ok expr →
      expr.height ≤ (3 * expr.longestChain + 2) * limit ∧
        (expr.longestChain ≤ 2 → expr.height ≤ 8 * limit)) ∧
      (0 < limit → ∀ bound, ∃ source expr,
        parse source limit = .ok expr ∧ bound < expr.height) := by
  refine ⟨fun source expr read => ?_, fun positive bound => ?_⟩
  · exact ⟨height_le_of_parse read (Nat.le_refl _), fun short => height_le_of_parse read short⟩
  · exact ⟨_, _, parse_alternatives positive bound, by rw [height_alternatives]; omega⟩

/-- Two joints stay below the bound, and other texts exceed it under the same limit. -/
theorem height_bounded_by_rows_of_three :
    parse "x||x||x" 1 = .ok (alternatives 2) ∧ (alternatives 2).height ≤ 8 * 1 ∧
      ∃ source expr, parse source 1 = .ok expr ∧ 8 * 1 < expr.height := by
  have read : parse "x||x||x" 1 = .ok (alternatives 2) := parse_alternatives Nat.one_pos 2
  have bounds := height_bounded_by_rows 1
  exact ⟨read, (bounds.1 _ _ read).2 (by decide), bounds.2 Nat.one_pos (8 * 1)⟩

/-- Twelve alternatives do not nest, but are higher than eight times the limit. -/
theorem twelve_alternatives_outgrow_limit :
    parse "x||x||x||x||x||x||x||x||x||x||x||x" 1 = .ok (alternatives 11) ∧
      8 * 1 < (alternatives 11).height :=
  ⟨parse_alternatives Nat.one_pos 11, by decide⟩

end NodeQuery.Predicate
