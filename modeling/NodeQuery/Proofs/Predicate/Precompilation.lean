import NodeQuery.Query.Execution

/-!
# Patterns compiled in advance

When a predicate is read, the patterns that stand as literals behind a pattern operator are compiled
and kept in a table.  The table is the compiling of patterns, restricted to these literals: it has
no other pattern, and what it has of one does not depend on how often or where the pattern stands.
A pattern that the table lacks is compiled when it is needed, so no evaluation can tell whether
there was a table.
-/

namespace NodeQuery.Predicate

/-! ## Literal patterns -/

namespace Expr

/-- The pattern that stands as a literal on the right of a pattern operator. -/
def operandPattern (op : CompareOp) (right : Expr) : List String :=
  match op.isPattern, right with
  | true, .literal (.string source) => [source]
  | _, _ => []

mutual

/-- The patterns that stand as literals anywhere in an expression. -/
def literalPatterns : Expr → List String
  | .literal _ => []
  | .path _ => []
  | .list items => literalPatternsAll items
  | .index target position => target.literalPatterns ++ position.literalPatterns
  | .call _ args => literalPatternsAll args
  | .not operand => operand.literalPatterns
  | .and left right => left.literalPatterns ++ right.literalPatterns
  | .or left right => left.literalPatterns ++ right.literalPatterns
  | .compare op left right =>
      operandPattern op right ++ left.literalPatterns ++ right.literalPatterns

def literalPatternsAll : List Expr → List String
  | [] => []
  | item :: items => item.literalPatterns ++ literalPatternsAll items

end

end Expr

/-! ## Tables -/

namespace PatternTable

/-- The table has what compiling makes of the given patterns, and nothing else. -/
def Restricts (table : PatternTable) (sources : List String) : Prop :=
  ∀ source, table.lookup source = if source ∈ sources then some (compilePattern source) else none

/-- What is taken from the one table or compiled is what is taken from the other or compiled. -/
def Agrees (table other : PatternTable) : Prop :=
  ∀ source, table.get source = other.get source

variable {table other : PatternTable} {sources more : List String}

theorem restricts_nil : Restricts [] [] := fun _ => rfl

/-- A pattern that the table has already is not added again, and would be the same. -/
theorem Restricts.insert (restricts : table.Restricts sources) (source : String) :
    (table.insert source).Restricts (sources ++ [source]) := by
  intro asked
  unfold PatternTable.insert
  by_cases known : source ∈ sources
  · rw [restricts source, if_pos known]
    simp only [restricts asked, List.mem_append, List.mem_singleton]
    by_cases same : asked = source
    · simp [same, known]
    · simp [same]
  · rw [restricts source, if_neg known]
    by_cases same : asked = source
    · simp [same]
    · simp [List.lookup_cons, beq_false_of_ne same, same, restricts asked]

theorem Restricts.get_eq (restricts : table.Restricts sources) (source : String) :
    table.get source = compilePattern source := by
  rw [get, restricts source]
  split
  · rfl
  · rfl

theorem Restricts.agrees (restricts : table.Restricts sources) (others : other.Restricts more) :
    table.Agrees other :=
  fun source => (restricts.get_eq source).trans (others.get_eq source).symm

end PatternTable

namespace Expr

mutual

/-- Collecting the patterns of an expression adds just its literal patterns to a table. -/
theorem collectPatterns_restricts (expr : Expr) {table : PatternTable} {sources : List String}
    (restricts : table.Restricts sources) :
    (expr.collectPatterns table).Restricts (sources ++ expr.literalPatterns) := by
  match expr with
  | .literal value => simpa [literalPatterns, collectPatterns] using restricts
  | .path segments => simpa [literalPatterns, collectPatterns] using restricts
  | .list items => exact collectPatternsList_restricts items restricts
  | .index target position =>
      rw [literalPatterns, ← List.append_assoc]
      exact collectPatterns_restricts position (collectPatterns_restricts target restricts)
  | .call name args => exact collectPatternsList_restricts args restricts
  | .not operand => exact collectPatterns_restricts operand restricts
  | .and left right =>
      rw [literalPatterns, ← List.append_assoc]
      exact collectPatterns_restricts right (collectPatterns_restricts left restricts)
  | .or left right =>
      rw [literalPatterns, ← List.append_assoc]
      exact collectPatterns_restricts right (collectPatterns_restricts left restricts)
  | .compare op left right =>
      have own : PatternTable.Restricts (match op.isPattern, right with
          | true, .literal (.string source) => table.insert source
          | _, _ => table) (sources ++ operandPattern op right) := by
        unfold operandPattern
        split
        · exact restricts.insert _
        · simpa using restricts
      rw [literalPatterns, ← List.append_assoc, ← List.append_assoc]
      exact collectPatterns_restricts right (collectPatterns_restricts left own)

theorem collectPatternsList_restricts (items : List Expr) {table : PatternTable}
    {sources : List String} (restricts : table.Restricts sources) :
    (collectPatternsList table items).Restricts (sources ++ literalPatternsAll items) := by
  match items with
  | [] => simpa [literalPatternsAll, collectPatternsList] using restricts
  | item :: items =>
      rw [literalPatternsAll, ← List.append_assoc]
      exact collectPatternsList_restricts items (collectPatterns_restricts item restricts)

end

end Expr

/-! ## Evaluation -/

/-- A comparison looks at the table only for its pattern. -/
theorem CompareOp.apply_eq_of_agrees {table other : PatternTable} (agrees : table.Agrees other)
    (op : CompareOp) (left right : Value) :
    op.apply table left right = op.apply other left right := by
  unfold PatternTable.Agrees at agrees
  cases op with
  | matching => simp only [CompareOp.apply, agrees]
  | notMatching => simp only [CompareOp.apply, agrees]
  | _ => rfl

namespace Expr

mutual

theorem eval_eq_of_agrees {table other : PatternTable} (agrees : table.Agrees other) (view : View)
    (expr : Expr) : expr.eval table view = expr.eval other view := by
  match expr with
  | .literal value => rfl
  | .path segments => rfl
  | .list items => rw [eval, eval, evalList_eq_of_agrees agrees view items]
  | .index target position =>
      rw [eval, eval, eval_eq_of_agrees agrees view target, eval_eq_of_agrees agrees view position]
  | .call name args =>
      by_cases len : name = "len"
      · subst len
        match args with
        | [] => simp only [eval]
        | [arg] => simp only [eval, eval_eq_of_agrees agrees view arg]
        | _ :: _ :: _ => simp only [eval]
      · by_cases has : name = "has"
        · subst has
          -- No argument of `has` is evaluated.
          match args with
          | [] => simp only [eval]
          | [arg] => cases arg <;> simp only [eval]
          | first :: _ :: _ => cases first <;> simp only [eval]
        · simp [eval, len, has]
  | .not operand => rw [eval, eval, eval_eq_of_agrees agrees view operand]
  | .and left right =>
      rw [eval, eval, eval_eq_of_agrees agrees view left, eval_eq_of_agrees agrees view right]
  | .or left right =>
      rw [eval, eval, eval_eq_of_agrees agrees view left, eval_eq_of_agrees agrees view right]
  | .compare op left right =>
      simp only [eval, eval_eq_of_agrees agrees view left, eval_eq_of_agrees agrees view right,
        CompareOp.apply_eq_of_agrees agrees]

theorem evalList_eq_of_agrees {table other : PatternTable} (agrees : table.Agrees other)
    (view : View) (items : List Expr) : evalList table view items = evalList other view items := by
  match items with
  | [] => rfl
  | item :: items =>
      rw [evalList, evalList, eval_eq_of_agrees agrees view item,
        evalList_eq_of_agrees agrees view items]

end

end Expr

/-! ## Predicates -/

/-- What a compiled predicate keeps of its body: the table that belongs to the expression. -/
theorem Compiled.patterns_ofBody {body : String} {limit : Nat} {expr : Expr}
    (read : (ofBody body limit).expr = .ok expr) :
    (ofBody body limit).patterns = expr.patterns := by
  unfold ofBody at read ⊢
  cases parsed : parse body limit with
  | ok other =>
      rw [parsed] at read
      cases read
      rfl
  | error error =>
      rw [parsed] at read
      cases read

/-- A predicate has the same outcome, be it a truth value or an error, with its table of patterns
and with an empty one, by which every pattern is compiled where it is met.  The table has just the
literal patterns of the expression, also those that are never met, and an outcome of compiling for
each, also if it is an error. -/
theorem matches_eq_of_empty_table {Node Key : Type} (body : String) (limit : Nat)
    (model : NodeModel Node Key) (provider : Provider Node) (node : Node) :
    let predicate := Compiled.ofBody body limit
    let view := nodeView model provider node
    predicate.matches? view = Compiled.matches? { predicate with patterns := [] } view ∧
      ∀ expr, predicate.expr = .ok expr → ∀ source,
        predicate.patterns.lookup source =
          if source ∈ expr.literalPatterns then some (compilePattern source) else none := by
  intro predicate view
  have restricts (expr : Expr) (read : predicate.expr = .ok expr) :
      predicate.patterns.Restricts expr.literalPatterns := by
    rw [Compiled.patterns_ofBody read]
    exact expr.collectPatterns_restricts PatternTable.restricts_nil
  constructor
  · unfold Compiled.matches?
    cases read : predicate.expr with
    | error error => rfl
    | ok expr =>
        have agrees := (restricts expr read).agrees PatternTable.restricts_nil
        simp only [Expr.eval_eq_of_agrees agrees]
  · exact restricts

/-- The pattern cannot be compiled, which is in the table though the predicate never meets it. -/
theorem matches_eq_of_empty_table_for_unmet_pattern :
    let model : NodeModel Nat Nat := { key := id }
    let predicate := Compiled.ofBody "true or x =~ '('" 1
    let view := nodeView model model.hooks 0
    predicate.matches? view = .ok true ∧
      Compiled.matches? { predicate with patterns := [] } view = .ok true ∧
      predicate.patterns.lookup "(" = some (compilePattern "(") := by
  intro model predicate view
  let expr : Expr := .or (.literal (.bool true))
    (.compare .matching (.path ["x"]) (.literal (.string "(")))
  have parsed : parse "true or x =~ '('" 1 = .ok expr := by with_unfolding_all rfl
  have compiled : predicate = ⟨"true or x =~ '('", .ok expr, expr.patterns⟩ := by
    simp only [predicate, Compiled.ofBody, parsed]
  have same := matches_eq_of_empty_table "true or x =~ '('" 1 model model.hooks 0
  have holds : predicate.matches? view = .ok true := by
    rw [compiled]
    rfl
  have entry := same.2 expr (congrArg Compiled.expr compiled) "("
  refine ⟨holds, same.1.symm.trans holds, entry.trans (if_pos ?_)⟩
  simp [expr, Expr.literalPatterns, Expr.operandPattern, CompareOp.isPattern]

end NodeQuery.Predicate
