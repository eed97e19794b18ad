import NodeQuery.Proofs.Predicate.Spelling

/-!
# Printed predicates

The text of an expression is read back as the expression.  What reading has made is well formed:
its names are names, its paths are not empty, and its literals have lexemes.  The text of such an
expression is spelled with lexemes from which the grammar derives it as an operand, because
whatever binds looser stands in parentheses.  Parentheses nest deeper than what was read, at most
two levels for each step down.
-/

namespace NodeQuery.Predicate

namespace Expr

/-! ## Parts of expressions -/

mutual

/-- The literals anywhere in the expression. -/
def literals : Expr → List Value
  | .literal value => [value]
  | .path _ => []
  | .list items => literalsAll items
  | .index target position => target.literals ++ position.literals
  | .call _ args => literalsAll args
  | .not operand => operand.literals
  | .and left right => left.literals ++ right.literals
  | .or left right => left.literals ++ right.literals
  | .compare _ left right => left.literals ++ right.literals

def literalsAll : List Expr → List Value
  | [] => []
  | item :: items => item.literals ++ literalsAll items

end

/-- The number of steps on the longest way down, none for what has no parts. -/
def nestingHeight (expr : Expr) : Nat := expr.height - 1

theorem height_eq (expr : Expr) : expr.height = expr.nestingHeight + 1 := by
  cases expr <;> rfl

mutual

/-- Names are names, paths lead somewhere, and literals have lexemes. -/
def WellFormed : Expr → Prop
  | .literal value => ∃ lexeme, Grammar.Literal lexeme value
  | .path segments => segments ≠ [] ∧ ∀ segment ∈ segments, IsName segment
  | .list items => WellFormedAll items
  | .index target position => target.WellFormed ∧ position.WellFormed
  | .call name args => IsName name ∧ WellFormedAll args
  | .not operand => operand.WellFormed
  | .and left right => left.WellFormed ∧ right.WellFormed
  | .or left right => left.WellFormed ∧ right.WellFormed
  | .compare _ left right => left.WellFormed ∧ right.WellFormed

def WellFormedAll : List Expr → Prop
  | [] => True
  | item :: items => item.WellFormed ∧ WellFormedAll items

end

theorem wellFormedAll_append_singleton {items : List Expr} {item : Expr} :
    WellFormedAll (items ++ [item]) ↔ WellFormedAll items ∧ item.WellFormed := by
  induction items with
  | nil => simp [WellFormedAll]
  | cons first items ih => simp [WellFormedAll, ih, and_assoc]

end Expr

/-! ## What is read is well formed -/

namespace Grammar

/-- The names in the row are names. -/
def Named (row : List Lexeme) : Prop := ∀ text, .name text ∈ row → IsName text

theorem named_append {left right : List Lexeme} :
    Named (left ++ right) ↔ Named left ∧ Named right := by
  simp only [Named, List.mem_append, or_imp, forall_and]

theorem named_cons {lexeme : Lexeme} {row : List Lexeme} :
    Named (lexeme :: row) ↔ Named [lexeme] ∧ Named row := by
  rw [← named_append, List.singleton_append]

theorem Path.wellFormed {lexemes : List Lexeme} {segments : List String}
    (path : Path lexemes segments) (named : Named lexemes) :
    segments ≠ [] ∧ ∀ segment ∈ segments, IsName segment := by
  induction path with
  | one name => exact ⟨nofun, by simpa [Named] using named⟩
  | more path name ih =>
      obtain ⟨front, last⟩ := named_append.mp named
      constructor
      · simp
      · intro segment member
        cases List.mem_append.mp member with
        | inl earlier => exact (ih front).2 segment earlier
        | inr same =>
            cases List.mem_singleton.mp same
            exact last name (by simp)

mutual

theorem Expression.wellFormed {lexemes : List Lexeme} {expr : Expr} {nesting : Nat}
    (expression : Expression lexemes expr nesting) (named : Named lexemes) : expr.WellFormed := by
  match expression with
  | .nested disjunction => exact disjunction.wellFormed named

theorem Disjunction.wellFormed {lexemes : List Lexeme} {expr : Expr} {nesting : Nat}
    (disjunction : Disjunction lexemes expr nesting) (named : Named lexemes) :
    expr.WellFormed := by
  match disjunction with
  | .one conjunction => exact conjunction.wellFormed named
  | .more before joint behind =>
      obtain ⟨left, right⟩ := named_append.mp named
      exact ⟨before.wellFormed left, behind.wellFormed (named_cons.mp right).2⟩

theorem Conjunction.wellFormed {lexemes : List Lexeme} {expr : Expr} {nesting : Nat}
    (conjunction : Conjunction lexemes expr nesting) (named : Named lexemes) :
    expr.WellFormed := by
  match conjunction with
  | .one negation => exact negation.wellFormed named
  | .more before joint behind =>
      obtain ⟨left, right⟩ := named_append.mp named
      exact ⟨before.wellFormed left, behind.wellFormed (named_cons.mp right).2⟩

theorem Negation.wellFormed {lexemes : List Lexeme} {expr : Expr} {nesting : Nat}
    (negation : Negation lexemes expr nesting) (named : Named lexemes) : expr.WellFormed := by
  match negation with
  | .none comparison => exact comparison.wellFormed named
  | .not symbol negation => exact negation.wellFormed (named_cons.mp named).2

theorem Comparison.wellFormed {lexemes : List Lexeme} {expr : Expr} {nesting : Nat}
    (comparison : Comparison lexemes expr nesting) (named : Named lexemes) :
    expr.WellFormed := by
  match comparison with
  | .none indexing => exact indexing.wellFormed named
  | .compare before op behind =>
      obtain ⟨left, right⟩ := named_append.mp named
      exact ⟨before.wellFormed left, behind.wellFormed (named_cons.mp right).2⟩

theorem Indexing.wellFormed {lexemes : List Lexeme} {expr : Expr} {nesting : Nat}
    (indexing : Indexing lexemes expr nesting) (named : Named lexemes) : expr.WellFormed := by
  match indexing with
  | .none operand => exact operand.wellFormed named
  | .index before inside =>
      obtain ⟨left, right⟩ := named_append.mp named
      obtain ⟨inner, _⟩ := named_append.mp (named_cons.mp right).2
      exact ⟨before.wellFormed left, inside.wellFormed inner⟩

theorem Operand.wellFormed {lexemes : List Lexeme} {expr : Expr} {nesting : Nat}
    (operand : Operand lexemes expr nesting) (named : Named lexemes) : expr.WellFormed := by
  match operand with
  | .literal literal => exact ⟨_, literal⟩
  | .path path => exact path.wellFormed named
  | .call name items =>
      obtain ⟨inner, _⟩ := named_append.mp (named_cons.mp (named_cons.mp named).2).2
      exact ⟨named name List.mem_cons_self, items.wellFormed inner⟩
  | .parenthesis inside =>
      exact inside.wellFormed (named_append.mp (named_cons.mp named).2).1
  | .list items => exact items.wellFormed (named_append.mp (named_cons.mp named).2).1

theorem Items.wellFormed {lexemes : List Lexeme} {exprs : List Expr} {nesting : Nat}
    (items : Items lexemes exprs nesting) (named : Named lexemes) :
    Expr.WellFormedAll exprs := by
  match items with
  | .none => exact trivial
  | .some elements => exact elements.wellFormed named

theorem Elements.wellFormed {lexemes : List Lexeme} {exprs : List Expr} {nesting : Nat}
    (elements : Elements lexemes exprs nesting) (named : Named lexemes) :
    Expr.WellFormedAll exprs := by
  match elements with
  | .one expression => exact ⟨expression.wellFormed named, trivial⟩
  | .more before behind =>
      obtain ⟨left, right⟩ := named_append.mp named
      rw [Expr.wellFormedAll_append_singleton]
      exact ⟨before.wellFormed left, behind.wellFormed (named_cons.mp right).2⟩

end

end Grammar

theorem wellFormed_of_parse {source : String} {limit : Nat} {expr : Expr}
    (read : parse source limit = .ok expr) : expr.WellFormed := by
  simp only [parse, bind_eq_ok, mapError_eq_ok, ofTokens_eq_ok_iff] at read
  obtain ⟨tokens, listed, nesting, _, expression⟩ := read
  have listing := Token.listing_of_listFrom listed
  exact expression.wellFormed fun _ member => listing.isName_of_mem member

/-! ## Rows that grow at the front -/

namespace Grammar

theorem Path.cons (name : String) {lexemes : List Lexeme} {segments : List String}
    (path : Path lexemes segments) :
    Path (.name name :: .dot :: lexemes) (name :: segments) := by
  induction path with
  | one other => exact .more (.one name) other
  | more _ other ih => exact .more ih other

theorem Elements.cons {left right : List Lexeme} {expr : Expr} {exprs : List Expr}
    {leftNesting rightNesting : Nat} (first : Expression left expr leftNesting)
    (elements : Elements right exprs rightNesting) :
    Elements (left ++ .comma :: right) (expr :: exprs) (max leftNesting rightNesting) := by
  match elements with
  | .one expression => exact .more (.one first) expression
  | .more before behind =>
      have longer := Elements.more (Elements.cons first before) behind
      simpa [Nat.max_assoc] using longer

end Grammar

theorem toList_intercalate_cons_cons (separator first second : String) (others : List String) :
    (separator.intercalate (first :: second :: others)).toList =
      first.toList ++ separator.toList ++ (separator.intercalate (second :: others)).toList := by
  simp only [String.toList_intercalate, List.map_cons, List.intercalate_cons_cons]

/-! ## What a text is read as -/

open Grammar

/-- The text is spelled with lexemes that the nonterminal derives the value from, nested no deeper
than given. -/
def Reads {α : Type} (nonterminal : List Lexeme → α → Nat → Prop) (chars : List Char) (value : α)
    (depth : Nat) : Prop :=
  ∃ row nesting, nesting ≤ depth ∧ Spells chars row ∧ nonterminal row value nesting

namespace Reads

variable {chars leftChars rightChars : List Char} {expr left right : Expr} {items : List Expr}
variable {depth leftDepth rightDepth : Nat}

theorem mono {α : Type} {nonterminal : List Lexeme → α → Nat → Prop} {value : α} {deeper : Nat}
    (reads : Reads nonterminal chars value depth) (le : depth ≤ deeper) :
    Reads nonterminal chars value deeper := by
  obtain ⟨row, nesting, fits, derived⟩ := reads
  exact ⟨row, nesting, Nat.le_trans fits le, derived⟩

theorem disjunction (reads : Reads Indexing chars expr depth) :
    Reads Disjunction chars expr depth := by
  obtain ⟨row, nesting, fits, spells, indexing⟩ := reads
  exact ⟨row, nesting, fits, spells, .one (.one (.none (.none indexing)))⟩

theorem expression (reads : Reads Disjunction chars expr depth) :
    Reads Expression chars expr (depth + 1) := by
  obtain ⟨row, nesting, fits, spells, disjunction⟩ := reads
  exact ⟨row, nesting + 1, Nat.succ_le_succ fits, spells, .nested disjunction⟩

/-- What nests within the limit is read. -/
theorem parse (reads : Reads Expression chars expr depth) {limit : Nat} (room : depth ≤ limit) :
    parse (String.ofList chars) limit = .ok expr := by
  obtain ⟨row, nesting, fits, spells, expression⟩ := reads
  obtain ⟨tokens, listed, rfl⟩ := spells.lists 0
  simp only [Predicate.parse, bind_eq_ok, mapError_eq_ok, ofTokens_eq_ok_iff, Token.list,
    String.toList_ofList]
  exact ⟨tokens, listed, nesting, Nat.le_trans fits room, expression⟩

theorem literal {value : Value} (hasLexeme : ∃ lexeme, Literal lexeme value)
    (legible : value.isLegible = true) :
    Reads Indexing value.text.toList (.literal value) 0 := by
  obtain ⟨lexeme, literal⟩ := hasLexeme
  exact ⟨[lexeme], 0, Nat.le_refl 0, .literal literal legible, .none (.literal literal)⟩

/-- Parentheses around what binds looser. -/
theorem parenthesis (reads : Reads Disjunction chars expr depth) :
    Reads Indexing ('(' :: (chars ++ [')'])) expr (depth + 1) := by
  obtain ⟨row, nesting, fits, spells, disjunction⟩ := reads
  have derived : Operand (.openParen :: (row ++ [.closeParen])) expr (nesting + 1) :=
    .parenthesis (.nested disjunction)
  exact ⟨_, nesting + 1, Nat.succ_le_succ fits, spells.parentheses, .none derived⟩

theorem not (reads : Reads Indexing chars expr depth) :
    Reads Disjunction ("not".toList ++ ' ' :: chars) (.not expr) (depth + 1) := by
  obtain ⟨row, nesting, fits, spells, indexing⟩ := reads
  refine ⟨[.notWord] ++ row, nesting + 1, Nat.succ_le_succ fits, ?_, ?_⟩
  · exact (Spells.word "not" ⟨rfl, rfl⟩).append spells.blank
  · exact .one (.one (.not .word (.none (.none indexing))))

/-- Two operands with a sign between them. -/
theorem joined {sign : Lexeme} {signChars : List Char}
    (before : Reads Indexing leftChars left leftDepth)
    (behind : Reads Indexing rightChars right rightDepth)
    (spelled : ∀ chars row, Spells chars row → Spells (signChars ++ ' ' :: chars) (sign :: row))
    (derives : ∀ leftRow rightRow leftNesting rightNesting, Indexing leftRow left leftNesting →
      Indexing rightRow right rightNesting →
        Disjunction (leftRow ++ sign :: rightRow) expr (max leftNesting rightNesting)) :
    Reads Disjunction (leftChars ++ ' ' :: (signChars ++ ' ' :: rightChars)) expr
      (max leftDepth rightDepth) := by
  obtain ⟨leftRow, leftNesting, leftFits, leftSpells, leftIndexing⟩ := before
  obtain ⟨rightRow, rightNesting, rightFits, rightSpells, rightIndexing⟩ := behind
  refine ⟨leftRow ++ sign :: rightRow, max leftNesting rightNesting, by omega, ?_, ?_⟩
  · exact leftSpells.append (spelled rightChars rightRow rightSpells).blank
  · exact derives leftRow rightRow leftNesting rightNesting leftIndexing rightIndexing

theorem and (before : Reads Indexing leftChars left leftDepth)
    (behind : Reads Indexing rightChars right rightDepth) :
    Reads Disjunction (leftChars ++ ' ' :: ("and".toList ++ ' ' :: rightChars)) (.and left right)
      (max leftDepth rightDepth) := by
  apply before.joined behind
  · intro chars row spells
    exact (Spells.word "and" ⟨rfl, rfl⟩).append spells.blank
  · intro leftRow rightRow leftNesting rightNesting first second
    exact .one (.more (.one (.none (.none first))) .word (.none (.none second)))

theorem or (before : Reads Indexing leftChars left leftDepth)
    (behind : Reads Indexing rightChars right rightDepth) :
    Reads Disjunction (leftChars ++ ' ' :: ("or".toList ++ ' ' :: rightChars)) (.or left right)
      (max leftDepth rightDepth) := by
  apply before.joined behind
  · intro chars row spells
    exact (Spells.word "or" ⟨rfl, rfl⟩).append spells.blank
  · intro leftRow rightRow leftNesting rightNesting first second
    exact .more (.one (.one (.none (.none first)))) .word (.one (.none (.none second)))

theorem compare (op : CompareOp) (before : Reads Indexing leftChars left leftDepth)
    (behind : Reads Indexing rightChars right rightDepth) :
    Reads Disjunction (leftChars ++ ' ' :: (op.symbol.toList ++ ' ' :: rightChars))
      (.compare op left right) (max leftDepth rightDepth) := by
  apply before.joined behind
  · intro chars row spells
    exact .operator op spells
  · intro leftRow rightRow leftNesting rightNesting first second
    exact .one (.one (.none (.compare first op second)))

theorem index (target : Reads Indexing leftChars left leftDepth)
    (position : Reads Expression rightChars right rightDepth) :
    Reads Indexing (leftChars ++ '[' :: (rightChars ++ [']'])) (.index left right)
      (max leftDepth rightDepth) := by
  obtain ⟨leftRow, leftNesting, leftFits, leftSpells, before⟩ := target
  obtain ⟨rightRow, rightNesting, rightFits, rightSpells, inside⟩ := position
  refine ⟨leftRow ++ .openBracket :: (rightRow ++ [.closeBracket]),
    max leftNesting rightNesting, by omega, ?_, ?_⟩
  · exact leftSpells.append rightSpells.brackets
  · exact .index before inside

theorem list (reads : Reads Items chars items depth) :
    Reads Indexing ('[' :: (chars ++ [']'])) (.list items) depth := by
  obtain ⟨row, nesting, fits, spells, derived⟩ := reads
  exact ⟨_, nesting, fits, spells.brackets, .none (.list derived)⟩

theorem call {name : String} (isName : IsName name) (reads : Reads Items chars items depth) :
    Reads Indexing (name.toList ++ '(' :: (chars ++ [')'])) (.call name items) depth := by
  obtain ⟨row, nesting, fits, spells, derived⟩ := reads
  refine ⟨[.name name] ++ .openParen :: (row ++ [.closeParen]), nesting, fits, ?_, ?_⟩
  · exact (Spells.name isName).append spells.parentheses
  · exact .none (.call name derived)

theorem path {segments : List String} (nonempty : segments ≠ [])
    (names : ∀ segment ∈ segments, IsName segment) :
    Reads Indexing (".".intercalate segments).toList (.path segments) 0 := by
  suffices derived : ∃ row, Path row segments ∧ Spells (".".intercalate segments).toList row by
    obtain ⟨row, path, spells⟩ := derived
    exact ⟨row, 0, Nat.le_refl 0, spells, .none (.path path)⟩
  induction segments with
  | nil => exact absurd rfl nonempty
  | cons name segments ih =>
      obtain ⟨head, tail⟩ := List.forall_mem_cons.mp names
      cases segments with
      | nil =>
          exact ⟨[.name name], .one name, by simpa using Spells.name head⟩
      | cons next segments =>
          obtain ⟨row, path, spells⟩ := ih nofun tail
          refine ⟨.name name :: .dot :: row, path.cons name, ?_⟩
          -- A name ends in front of a point, but a number need not: the point closes nothing.
          intro rest behind closes lists
          let others := (".".intercalate (next :: segments)).toList ++ rest
          have pointed : Lists ('.' :: others) (.dot :: (row ++ behind)) :=
            .cons rfl rfl (spells rest behind closes lists)
          have stops : ∀ char ∈ ('.' :: others).head?, isNamePart char = false := by
            intro char first
            cases first
            rfl
          have word := lists_word head.word stops pointed
          rw [head.plain] at word
          rw [toList_intercalate_cons_cons]
          simpa [others] using word

theorem name {name : String} (isName : IsName name) :
    Reads Indexing name.toList (.path [name]) 0 :=
  ⟨[.name name], 0, Nat.le_refl 0, Spells.name isName, .none (.path (.one name))⟩

/-- An expression in front of others. -/
theorem item (first : Reads Expression expr.text.toList expr leftDepth)
    (behind : Reads Items (", ".intercalate (Expr.texts items)).toList items rightDepth) :
    Reads Items (", ".intercalate (Expr.texts (expr :: items))).toList (expr :: items)
      (max leftDepth rightDepth) := by
  obtain ⟨leftRow, leftNesting, leftFits, leftSpells, expression⟩ := first
  cases items with
  | nil =>
      refine ⟨leftRow, leftNesting, by omega, ?_, .some (.one expression)⟩
      simpa [Expr.texts] using leftSpells
  | cons next items =>
      obtain ⟨rightRow, rightNesting, rightFits, rightSpells, derived⟩ := behind
      cases derived with
      | some elements =>
          refine ⟨leftRow ++ .comma :: rightRow, max leftNesting rightNesting, by omega, ?_,
            .some (elements.cons expression)⟩
          rw [Expr.texts, Expr.texts, toList_intercalate_cons_cons, List.append_assoc]
          exact leftSpells.append (.cons (fun _ => rfl) rightSpells.blank)

end Reads

/-- Two parts of an expression leave room for parentheses around them. -/
theorem nesting_of_parts_le (left right : Expr) :
    max (2 * left.nestingHeight) (2 * right.nestingHeight) + 1 ≤
      2 * max left.height right.height := by
  rw [left.height_eq, right.height_eq]
  omega

mutual

/-- The text of an expression is read as an operand.  A step down nests at most two levels deeper:
a negation is one, and its parentheses are another. -/
theorem Expr.reads_text (expr : Expr) (wellFormed : expr.WellFormed)
    (legible : ∀ value ∈ expr.literals, value.isLegible = true) :
    Reads Indexing expr.text.toList expr (2 * expr.nestingHeight) := by
  match expr with
  | .literal value => exact .literal wellFormed (legible value (List.mem_singleton_self value))
  | .path segments => exact .path wellFormed.1 wellFormed.2
  | .list items =>
      have reads := (Expr.reads_texts items wellFormed legible).list
      simpa [text, nestingHeight, height] using reads
  | .call name args =>
      have reads := (Expr.reads_texts args wellFormed.2 legible).call wellFormed.1
      simpa [text, nestingHeight, height] using reads
  | .index target position =>
      obtain ⟨left, right⟩ := List.forall_mem_append.mp legible
      have before := target.reads_text wellFormed.1 left
      have inside := position.reads_text wellFormed.2 right
      have reads := before.index inside.disjunction.expression
      have fits := nesting_of_parts_le target position
      simpa [text, nestingHeight, height] using reads.mono (Nat.le_trans (by omega) fits)
  | .not operand =>
      have reads := (operand.reads_text wellFormed legible).not.parenthesis
      have fits : 2 * operand.nestingHeight + 2 ≤ 2 * operand.height := by
        rw [operand.height_eq]
        omega
      simpa [text, nestingHeight, height] using reads.mono fits
  | .and left right =>
      obtain ⟨leftLegible, rightLegible⟩ := List.forall_mem_append.mp legible
      have before := left.reads_text wellFormed.1 leftLegible
      have behind := right.reads_text wellFormed.2 rightLegible
      have reads := (before.and behind).parenthesis
      simpa [text, nestingHeight, height] using reads.mono (nesting_of_parts_le left right)
  | .or left right =>
      obtain ⟨leftLegible, rightLegible⟩ := List.forall_mem_append.mp legible
      have before := left.reads_text wellFormed.1 leftLegible
      have behind := right.reads_text wellFormed.2 rightLegible
      have reads := (before.or behind).parenthesis
      simpa [text, nestingHeight, height] using reads.mono (nesting_of_parts_le left right)
  | .compare op left right =>
      obtain ⟨leftLegible, rightLegible⟩ := List.forall_mem_append.mp legible
      have before := left.reads_text wellFormed.1 leftLegible
      have behind := right.reads_text wellFormed.2 rightLegible
      have reads := (before.compare op behind).parenthesis
      simpa [text, nestingHeight, height] using reads.mono (nesting_of_parts_le left right)

theorem Expr.reads_texts (items : List Expr) (wellFormed : WellFormedAll items)
    (legible : ∀ value ∈ literalsAll items, value.isLegible = true) :
    Reads Items (", ".intercalate (texts items)).toList items (2 * heightAll items) := by
  match items with
  | [] => exact ⟨[], 0, Nat.zero_le _, .nil, .none⟩
  | item :: items =>
      obtain ⟨head, tail⟩ := List.forall_mem_append.mp legible
      have first := (item.reads_text wellFormed.1 head).disjunction.expression
      have reads := first.item (Expr.reads_texts items wellFormed.2 tail)
      apply reads.mono
      rw [heightAll, item.height_eq]
      omega

end

theorem parse_text_of_wellFormed {expr : Expr} (wellFormed : expr.WellFormed)
    (legible : ∀ value ∈ expr.literals, value.isLegible = true) {limit : Nat}
    (room : 2 * expr.nestingHeight + 1 ≤ limit) : parse expr.text limit = .ok expr := by
  have read := (expr.reads_text wellFormed legible).disjunction.expression.parse room
  rwa [String.ofList_toList] at read

/-- What has been read from a text is read again from its own text, under any limit with room for
the parentheses that printing adds.  Only floats, and strings with characters that are written by
their code points, are left out. -/
theorem parse_text_of_parse {source : String} {limit : Nat} {expr : Expr}
    (read : parse source limit = .ok expr)
    (legible : ∀ value ∈ expr.literals, value.isLegible = true) {again : Nat}
    (room : 2 * expr.nestingHeight + 1 ≤ again) : parse expr.text again = .ok expr :=
  parse_text_of_wellFormed (wellFormed_of_parse read) legible room

/-- The parentheses need their room. -/
example : parse "!x" 2 = .ok (.not (.path ["x"])) ∧ parse "(not x)" 2 = .error (.tooDeep 2) := by
  constructor <;> with_unfolding_all rfl

/-- A dash inside a name, a sign, a position behind a position and escapes of both kinds of quotes
survive, and signs come back as words. -/
theorem parse_text_of_parse_with_escapes :
    let source := "!(tags[-1]['\\'\"'] == f([], \"a\\n\", null)) || x-1.y"
    let printed := "((not (tags[-1][\"'\\\"\"] == f([], \"a\\n\", null))) or x-1.y)"
    let expr : Expr := .or
      (.not (.compare .eq
        (.index (.index (.path ["tags"]) (.literal (.int (-1)))) (.literal (.string "'\"")))
        (.call "f" [.list [], .literal (.string "a\n"), .literal .null])))
      (.path ["x-1", "y"])
    parse source 4 = .ok expr ∧ expr.text = printed ∧ expr.nestingHeight = 5 ∧
      parse printed 11 = .ok expr := by
  intro source printed expr
  have listed : Token.list source = .ok [⟨.notSign, 0, 1⟩, ⟨.openParen, 1, 2⟩,
      ⟨.name "tags", 2, 6⟩, ⟨.openBracket, 6, 7⟩, ⟨.int (-1), 7, 9⟩, ⟨.closeBracket, 9, 10⟩,
      ⟨.openBracket, 10, 11⟩, ⟨.string "'\"", 11, 16⟩, ⟨.closeBracket, 16, 17⟩,
      ⟨.compare .eq, 18, 20⟩, ⟨.name "f", 21, 22⟩, ⟨.openParen, 22, 23⟩, ⟨.openBracket, 23, 24⟩,
      ⟨.closeBracket, 24, 25⟩, ⟨.comma, 25, 26⟩, ⟨.string "a\n", 27, 32⟩, ⟨.comma, 32, 33⟩,
      ⟨.nullWord, 34, 38⟩, ⟨.closeParen, 38, 39⟩, ⟨.closeParen, 39, 40⟩, ⟨.orSign, 41, 43⟩,
      ⟨.name "x-1", 44, 47⟩, ⟨.dot, 47, 48⟩, ⟨.name "y", 48, 49⟩] := by decide +kernel
  have read : parse source 4 = .ok expr := by
    rw [parse, listed]
    rfl
  have text : expr.text = printed := by decide +kernel
  have legible : expr.literals.all Value.isLegible = true := by decide +kernel
  have height : expr.nestingHeight = 5 := rfl
  have again := parse_text_of_parse read (List.all_eq_true.mp legible) (Nat.le_refl _)
  rw [text, height] at again
  exact ⟨read, text, height, again⟩

end NodeQuery.Predicate
