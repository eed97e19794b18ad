import NodeQuery.Proofs.Selector.Printing
import NodeQuery.Proofs.Selector.Recognition

/-!
# What blanks mean

Blanks at an end of a text, and blanks next to a comma or to a combinator that is written with a
sign, mean nothing; between two steps they are a combinator.  The normal form of a text leaves the
former out.  Two texts with the same normal form are read as the same selector or are no selectors,
and the texts of one selector have one normal form.
-/

namespace NodeQuery.Selector

/-! ## Normal forms -/

namespace Lexeme

/-- The kinds of lexemes. -/
inductive Kind where
  | blank
  | comma
  | star
  | dot
  | hash
  | plus
  | greater
  | tilde
  | colon
  | name
  | predicate
  | arguments
  deriving Repr, DecidableEq

def kind : Lexeme → Kind
  | .blank _ => .blank
  | .comma => .comma
  | .star => .star
  | .dot => .dot
  | .hash => .hash
  | .plus => .plus
  | .greater => .greater
  | .tilde => .tilde
  | .colon => .colon
  | .name _ => .name
  | .predicate _ => .predicate
  | .arguments _ => .arguments

/-- What a lexeme says: its kind and what it holds besides. -/
def mark (lexeme : Lexeme) : Kind × Option String := (lexeme.kind, lexeme.value?)

/-- Whether blanks next to the lexeme mean nothing. -/
def isSeparator : Lexeme → Bool
  | .comma => true
  | lexeme => lexeme.isCombinator

theorem kind_eq_blank {lexeme : Lexeme} : lexeme.kind = .blank ↔ ∃ text, lexeme = .blank text := by
  cases lexeme <;> simp [kind]

/-- Only blanks say the same in different texts. -/
theorem eq_or_blank_of_mark_eq {left right : Lexeme} (same : left.mark = right.mark) :
    left = right ∨ (∃ text, left = .blank text) ∧ ∃ text, right = .blank text := by
  cases left <;> cases right <;> simp_all [mark, kind, value?]

end Lexeme

/-- The row without the blanks that mean nothing; `before` is the lexeme in front of the row. -/
def meaningfulFrom (before : Option Lexeme) : List Lexeme → List Lexeme
  | [] => []
  | lexeme :: lexemes =>
      if lexeme.kind = .blank ∧
          (before.all Lexeme.isSeparator ∨ lexemes.head?.all Lexeme.isSeparator)
      then meaningfulFrom (some lexeme) lexemes
      else lexeme :: meaningfulFrom (some lexeme) lexemes

/-- The row without the blanks at its ends or next to a separator. -/
def meaningful (lexemes : List Lexeme) : List Lexeme := meaningfulFrom none lexemes

/-- What the tokens of a text say, apart from blanks that mean nothing. -/
def normalForm (tokens : List Token) : List (Lexeme.Kind × Option String) :=
  (meaningful (tokens.map Token.lexeme)).map Lexeme.mark

/-! ## The parser does not see what is left out -/

namespace State

/-- From the state on, the row leads to the selector. -/
def Finds (state : State) (lexemes : List Lexeme) (selector : Selector) : Prop :=
  ∃ final, state.Reads lexemes final ∧ final.finish = .ok selector

/-- Blanks leave the state as it is. -/
def Slack (state : State) : Prop := ∀ text, state.advance (.blank text) = .ok state

variable {state next : State} {lexeme : Lexeme} {lexemes : List Lexeme} {selector : Selector}

theorem finds_nil : state.Finds [] selector ↔ state.finish = .ok selector := by
  simp [Finds, reads_nil]

theorem finds_cons :
    state.Finds (lexeme :: lexemes) selector ↔
      ∃ next, state.advance lexeme = .ok next ∧ next.Finds lexemes selector := by
  constructor
  · rintro ⟨final, reads, finished⟩
    rcases reads_cons.mp reads with ⟨next, taken, behind⟩
    exact ⟨next, taken, final, behind, finished⟩
  · rintro ⟨next, taken, final, behind, finished⟩
    exact ⟨final, reads_cons.mpr ⟨next, taken, behind⟩, finished⟩

theorem slack_initial : initial.Slack := fun _ => rfl

theorem slack_behind_separator (separator : lexeme.isSeparator = true)
    (taken : state.advance lexeme = .ok next) : next.Slack := by
  intro text
  cases takes_of_advance taken with
  | comma whole closed =>
      unfold comma at closed
      split at closed
      · cases closed
      · cases closed
      · cases closed
        rfl
  | sign whole symbol pending =>
      unfold explicit at pending
      split at pending
      · cases pending
      · cases pending
      · cases pending
        rfl
  | test free simple => cases simple <;> cases separator
  | @sigil sigil => cases sigil <;> cases separator
  | _ => cases separator

/-- Behind a sigil there has to be a name. -/
theorem advance_behind_sigil {sigil : Sigil} (behind : state.mode = .sigil sigil)
    (noName : ∀ name, lexeme ≠ .name name) :
    state.advance lexeme = .error (.expected (.nameAfter sigil) (some lexeme)) := by
  rcases state with ⟨groups, operations, mode⟩
  cases behind
  cases lexeme with
  | name name => exact absurd rfl (noName name)
  | _ => cases sigil <;> rfl

/-- Blanks in front of a separator make no difference. -/
theorem finds_blank_separator {text : String} (separator : lexeme.isSeparator = true) :
    state.Finds (.blank text :: lexeme :: lexemes) selector ↔
      state.Finds (lexeme :: lexemes) selector := by
  by_cases whole : state.Whole
  · have same : state.settle.blank.advance lexeme = state.advance lexeme := by
      rcases state with ⟨groups, operations, mode⟩
      cases mode with
      | sigil sigil => exact absurd rfl (whole sigil)
      | _ => cases lexeme <;> first | rfl | cases separator
    rw [finds_cons, advance_blank whole]
    simp [finds_cons, same]
  · rcases not_forall_not.mp whole with ⟨sigil, behind⟩
    have noName (name : String) : lexeme ≠ .name name := by
      rintro rfl
      cases separator
    simp [finds_cons, advance_behind_sigil behind, noName]

/-- Blanks at the end make no difference. -/
theorem finds_blank_end {text : String} :
    state.Finds [.blank text] selector ↔ state.Finds [] selector := by
  rw [finds_cons, finds_nil]
  by_cases whole : state.Whole
  · have same : state.settle.blank.finish = state.finish := by
      rcases state with ⟨groups, operations, mode⟩
      cases mode with
      | sigil sigil => exact absurd rfl (whole sigil)
      | _ => rfl
    simp [advance_blank whole, finds_nil, same]
  · rcases not_forall_not.mp whole with ⟨sigil, behind⟩
    have refused : state.finish = .error (.nameAfter sigil) := by
      rw [finish, behind]
    simp [advance_behind_sigil behind, refused]

/-- Leaving out what means nothing leads to the same selector. -/
theorem finds_meaningfulFrom {before : Option Lexeme}
    (slack : before.all Lexeme.isSeparator = true → state.Slack) :
    state.Finds (meaningfulFrom before lexemes) selector ↔ state.Finds lexemes selector := by
  induction lexemes generalizing state before with
  | nil => exact Iff.rfl
  | cons lexeme lexemes ih =>
      rw [meaningfulFrom]
      split
      case isTrue leftOut =>
          rcases leftOut with ⟨isBlank, idle⟩
          rcases Lexeme.kind_eq_blank.mp isBlank with ⟨text, rfl⟩
          have behind : state.Finds (meaningfulFrom (some (.blank text)) lexemes) selector ↔
              state.Finds lexemes selector :=
            ih fun separator => absurd separator Bool.false_ne_true
          rw [behind]
          rcases idle with behindSeparator | frontOfSeparator
          · simp [finds_cons, slack behindSeparator text]
          · cases lexemes with
            | nil => exact finds_blank_end.symm
            | cons next lexemes => exact (finds_blank_separator frontOfSeparator).symm
      case isFalse =>
          rw [finds_cons, finds_cons]
          apply exists_congr
          intro next
          apply and_congr_right
          intro taken
          exact ih fun separator => slack_behind_separator separator taken

/-- The parser sees no more of a lexeme than what it says. -/
theorem advance_eq_ok_of_mark_eq {left right : Lexeme} (same : left.mark = right.mark)
    (taken : state.advance left = .ok next) : state.advance right = .ok next := by
  rcases Lexeme.eq_or_blank_of_mark_eq same with rfl | ⟨⟨text, rfl⟩, ⟨other, rfl⟩⟩
  · exact taken
  · have whole : state.Whole := by
      intro sigil behind
      rw [advance_behind_sigil behind (by simp)] at taken
      cases taken
    rw [advance_blank whole] at taken ⊢
    exact taken

theorem Finds.of_marks_eq {left right : List Lexeme} (found : state.Finds left selector)
    (same : left.map Lexeme.mark = right.map Lexeme.mark) : state.Finds right selector := by
  induction left generalizing state right with
  | nil =>
      rw [List.map_nil, eq_comm, List.map_eq_nil_iff] at same
      exact same ▸ found
  | cons lexeme left ih =>
      cases right with
      | nil => cases same
      | cons other right =>
          rw [List.map_cons, List.map_cons, List.cons.injEq] at same
          rcases finds_cons.mp found with ⟨next, taken, behind⟩
          exact finds_cons.mpr ⟨next, advance_eq_ok_of_mark_eq same.1 taken, ih behind same.2⟩

end State

theorem parse_eq_ok_iff_finds {source : String} {tokens : List Token} {selector : Selector}
    (listed : Token.list source = .ok tokens) :
    parse source = .ok selector ↔
      State.initial.Finds (meaningful (tokens.map Token.lexeme)) selector := by
  rw [parse_eq_ok_iff_accepts, listed, meaningful,
    State.finds_meaningfulFrom fun _ => State.slack_initial]
  simp [State.Accepts, State.Finds]

/-! ## The normal form of a selector -/

/-- The lexeme of a combinator without the blanks around it. -/
def signOf : Combinator → Lexeme
  | .descendant => .blank " "
  | .child => .greater
  | .sibling => .tilde
  | .adjacent => .plus

/-- The lexemes of a row of operations without blanks that mean nothing. -/
def bareRow (operations : List Operation) : List Lexeme :=
  operations.flatMap fun
    | .combinator link => [signOf link]
    | test => test.lexemes

/-- The lexemes of a selector without blanks that mean nothing. -/
def bare (selector : Selector) : List Lexeme :=
  [Lexeme.comma].intercalate (selector.groups.map fun group => bareRow group.operations)

/-- The lexeme belongs to a test. -/
def Lexeme.InTest (lexeme : Lexeme) : Prop := lexeme.kind ≠ .blank ∧ lexeme.isSeparator = false

section Meaningful

variable {before other : Option Lexeme} {lexeme : Lexeme} {lexemes : List Lexeme}

theorem kind_ne_blank_of_isSeparator (separator : lexeme.isSeparator = true) :
    lexeme.kind ≠ .blank := by
  intro isBlank
  rcases Lexeme.kind_eq_blank.mp isBlank with ⟨text, rfl⟩
  cases separator

theorem meaningfulFrom_congr (same : before.all Lexeme.isSeparator = other.all Lexeme.isSeparator) :
    meaningfulFrom before lexemes = meaningfulFrom other lexemes := by
  cases lexemes with
  | nil => rfl
  | cons lexeme lexemes => rw [meaningfulFrom, meaningfulFrom, same]

theorem meaningfulFrom_cons_of_not_blank (notBlank : lexeme.kind ≠ .blank) :
    meaningfulFrom before (lexeme :: lexemes) = lexeme :: meaningfulFrom (some lexeme) lexemes := by
  rw [meaningfulFrom, if_neg]
  rintro ⟨isBlank, -⟩
  exact notBlank isBlank

theorem meaningfulFrom_of_not_blank (noBlanks : ∀ lexeme ∈ lexemes, lexeme.kind ≠ .blank) :
    meaningfulFrom before lexemes = lexemes := by
  induction lexemes generalizing before with
  | nil => rfl
  | cons lexeme lexemes ih =>
      rcases List.forall_mem_cons.mp noBlanks with ⟨notBlank, others⟩
      rw [meaningfulFrom_cons_of_not_blank notBlank, ih others]

/-- A lexeme that is no blank parts the row: nothing in front of it depends on what is behind. -/
theorem meaningfulFrom_append_cons (left right : List Lexeme) (notBlank : lexeme.kind ≠ .blank) :
    meaningfulFrom before (left ++ lexeme :: right) =
      meaningfulFrom before (left ++ [lexeme]) ++ meaningfulFrom (some lexeme) right := by
  induction left generalizing before with
  | nil =>
      simp only [List.nil_append, meaningfulFrom_cons_of_not_blank notBlank, meaningfulFrom,
        List.singleton_append]
  | cons first left ih =>
      have heads : (left ++ lexeme :: right).head? = (left ++ [lexeme]).head? := by
        cases left <;> rfl
      rw [List.cons_append, List.cons_append, meaningfulFrom, meaningfulFrom, heads, ih]
      split
      · rfl
      · rfl

/-- In front of a separator blanks mean as little as at the end. -/
theorem meaningfulFrom_concat (left : List Lexeme) (separator : lexeme.isSeparator = true) :
    meaningfulFrom before (left ++ [lexeme]) = meaningfulFrom before left ++ [lexeme] := by
  induction left generalizing before with
  | nil =>
      exact meaningfulFrom_cons_of_not_blank (kind_ne_blank_of_isSeparator separator)
  | cons first left ih =>
      have heads : (left ++ [lexeme]).head?.all Lexeme.isSeparator =
          left.head?.all Lexeme.isSeparator := by
        cases left with
        | nil => exact separator
        | cons => rfl
      rw [List.cons_append, meaningfulFrom, meaningfulFrom, heads, ih]
      split
      · rfl
      · rfl

/-- The parts on the two sides of a separator are rows of their own. -/
theorem meaningful_separator (left right : List Lexeme) (separator : lexeme.isSeparator = true) :
    meaningful (left ++ lexeme :: right) = meaningful left ++ lexeme :: meaningful right := by
  have behind : meaningfulFrom (some lexeme) right = meaningfulFrom none right :=
    meaningfulFrom_congr separator
  rw [meaningful, meaningfulFrom_append_cons _ _ (kind_ne_blank_of_isSeparator separator),
    meaningfulFrom_concat _ separator, behind, List.append_assoc]
  rfl

end Meaningful

/-- The row starts and ends with lexemes of tests. -/
structure Framed (lexemes : List Lexeme) : Prop where
  starts : ∃ first rest, lexemes = first :: rest ∧ first.InTest
  ends : ∃ front last, lexemes = front ++ [last] ∧ last.InTest

namespace Framed

variable {lexemes between further : List Lexeme}

theorem of_tests (nonempty : lexemes ≠ []) (tests : ∀ lexeme ∈ lexemes, lexeme.InTest) :
    Framed lexemes := by
  constructor
  · rcases List.exists_cons_of_ne_nil nonempty with ⟨first, rest, rfl⟩
    exact ⟨first, rest, rfl, tests first List.mem_cons_self⟩
  · refine ⟨lexemes.dropLast, lexemes.getLast nonempty, ?_, ?_⟩
    · rw [List.dropLast_append_getLast]
    · exact tests _ (List.getLast_mem nonempty)

theorem join (left : Framed lexemes) (right : Framed further) :
    Framed (lexemes ++ between ++ further) := by
  constructor
  · rcases left.starts with ⟨first, rest, rfl, inTest⟩
    exact ⟨first, _, rfl, inTest⟩
  · rcases right.ends with ⟨front, last, rfl, inTest⟩
    exact ⟨lexemes ++ between ++ front, last, by simp, inTest⟩

end Framed

namespace Grammar

open Lexeme (mark)

variable {lexemes : List Lexeme}

theorem Padding.meaningful_eq_nil (padding : Padding lexemes) : meaningful lexemes = [] := by
  cases padding with
  | none => rfl
  | blank text => rfl

/-- Padding in front of a test is left out. -/
theorem Padding.meaningful_append {row : List Lexeme} (padding : Padding lexemes)
    (starts : ∃ first rest, row = first :: rest ∧ first.InTest) :
    meaningful (lexemes ++ row) = meaningful row := by
  rcases starts with ⟨first, rest, rfl, inTest⟩
  cases padding with
  | none => rfl
  | blank text =>
      have leftOut : meaningful ([.blank text] ++ first :: rest) =
          meaningfulFrom (some (.blank text)) (first :: rest) := rfl
      rw [leftOut, meaningful, meaningfulFrom_cons_of_not_blank inTest.1,
        meaningfulFrom_cons_of_not_blank inTest.1]

/-- Padding behind a test is left out. -/
theorem Padding.append_meaningful {row : List Lexeme} (padding : Padding lexemes)
    (ends : ∃ front last, row = front ++ [last] ∧ last.InTest) :
    meaningful (row ++ lexemes) = meaningful row := by
  rcases ends with ⟨front, last, rfl, inTest⟩
  cases padding with
  | none => rw [List.append_nil]
  | blank text =>
      have leftOut : meaningfulFrom (some last) [.blank text] = [] := by
        simp [meaningfulFrom, Lexeme.kind]
      rw [List.append_assoc, List.singleton_append, meaningful,
        meaningfulFrom_append_cons _ _ inTest.1, leftOut, List.append_nil, meaningful]

theorem Simple.lexemes_eq {test : Operation} (simple : Simple lexemes test) :
    bareRow [test] = lexemes ∧ lexemes ≠ [] ∧ ∀ lexeme ∈ lexemes, lexeme.InTest := by
  cases simple <;>
    simp [bareRow, Operation.lexemes, Lexeme.InTest, Lexeme.kind, Lexeme.isSeparator,
      Lexeme.isCombinator]

theorem Step.lexemes_eq {tests : List Operation} (step : Step lexemes tests) :
    bareRow tests = lexemes ∧ lexemes ≠ [] ∧ ∀ lexeme ∈ lexemes, lexeme.InTest := by
  induction step with
  | one simple => exact simple.lexemes_eq
  | more step noStar simple ih =>
      rcases ih with ⟨front, nonempty, tests⟩
      rcases simple.lexemes_eq with ⟨last, -, lastTests⟩
      refine ⟨?_, ?_, List.forall_mem_append.mpr ⟨tests, lastTests⟩⟩
      · rw [bareRow, List.flatMap_append, ← bareRow, ← bareRow, front, last]
      · simp [nonempty]

theorem Step.framed {tests : List Operation} (step : Step lexemes tests) : Framed lexemes :=
  .of_tests step.lexemes_eq.2.1 step.lexemes_eq.2.2

theorem Step.meaningfulFrom_eq {before : Option Lexeme} {tests : List Operation}
    (step : Step lexemes tests) : meaningfulFrom before lexemes = bareRow tests := by
  rcases step.lexemes_eq with ⟨same, -, inTests⟩
  rw [same]
  apply meaningfulFrom_of_not_blank
  intro lexeme member
  exact (inTests lexeme member).1

theorem Sign.separator {sign : Lexeme} {link : Combinator} (symbol : Sign sign link) :
    sign = signOf link ∧ sign.isSeparator = true := by
  cases symbol <;> exact ⟨rfl, rfl⟩

/-- Between two rows that tests frame, a combinator is left with one lexeme. -/
theorem Link.marks {left right between : List Lexeme} {link : Combinator}
    (joint : Link between link) (before : Framed left) (behind : Framed right) :
    (meaningful (left ++ between ++ right)).map mark =
      (meaningful left).map mark ++ (signOf link).mark :: (meaningful right).map mark := by
  cases joint with
  | descendant text =>
      rcases before.ends with ⟨front, last, rfl, ⟨notBlank, noSeparator⟩⟩
      rcases behind.starts with ⟨first, rest, rfl, inTest⟩
      have kept : meaningfulFrom (some last) (.blank text :: first :: rest) =
          .blank text :: meaningful (first :: rest) := by
        rw [meaningfulFrom, if_neg (by simp [noSeparator, inTest.2]), meaningful,
          meaningfulFrom_cons_of_not_blank inTest.1, meaningfulFrom_cons_of_not_blank inTest.1]
      have whole : front ++ [last] ++ [.blank text] ++ first :: rest =
          front ++ last :: .blank text :: first :: rest := by simp
      rw [whole, meaningful, meaningfulFrom_append_cons _ _ notBlank, kept, List.map_append]
      rfl
  | @explicit leftPadding rightPadding sign _ padding symbol further =>
      rcases symbol.separator with ⟨rfl, separator⟩
      have whole : left ++ (leftPadding ++ signOf link :: rightPadding) ++ right =
          left ++ leftPadding ++ signOf link :: (rightPadding ++ right) := by simp
      rw [whole, meaningful_separator _ _ separator, padding.append_meaningful before.ends,
        further.meaningful_append behind.starts, List.map_append, List.map_cons]

theorem Chain.framed {operations : List Operation} (chain : Chain lexemes operations) :
    Framed lexemes := by
  induction chain with
  | one step => exact step.framed
  | more chain joint step ih => exact ih.join step.framed

theorem Chain.marks {operations : List Operation} (chain : Chain lexemes operations) :
    (meaningful lexemes).map mark = (bareRow operations).map mark := by
  induction chain with
  | one step => rw [meaningful, step.meaningfulFrom_eq]
  | @more before between lexemes operations tests link chain joint step ih =>
      have row : bareRow (operations ++ .combinator link :: tests) =
          bareRow operations ++ signOf link :: bareRow tests := by
        simp [bareRow]
      rw [joint.marks chain.framed step.framed, ih, row, meaningful, step.meaningfulFrom_eq,
        List.map_append, List.map_cons]

theorem Alternative.marks {group : Group} (alternative : Alternative lexemes group) :
    (meaningful lexemes).map mark = (bareRow group.operations).map mark := by
  cases alternative with
  | @padded left middle right operations before chain behind =>
      rcases chain.framed.ends with ⟨front, last, whole, inTest⟩
      have ends : ∃ front last, left ++ middle = front ++ [last] ∧ last.InTest :=
        ⟨left ++ front, last, by rw [whole, List.append_assoc], inTest⟩
      rw [behind.append_meaningful ends, before.meaningful_append chain.framed.starts, chain.marks]

theorem intercalate_concat {α : Type} (separator last : List α) {front : List (List α)}
    (nonempty : front ≠ []) :
    separator.intercalate (front ++ [last]) = separator.intercalate front ++ separator ++ last := by
  rcases List.exists_cons_of_ne_nil nonempty with ⟨first, others, rfl⟩
  rw [List.cons_append, intercalate_cons_eq_append_flatMap, intercalate_cons_eq_append_flatMap]
  simp

theorem Alternatives.marks {groups : List Group} (alternatives : Alternatives lexemes groups) :
    (meaningful lexemes).map mark = (bare ⟨groups⟩).map mark := by
  induction alternatives with
  | one alternative => simpa [bare] using alternative.marks
  | @more before lexemes groups group alternatives alternative ih =>
      have row : bare ⟨groups ++ [group]⟩ =
          bare ⟨groups⟩ ++ [.comma] ++ bareRow group.operations := by
        rw [bare, List.map_append, List.map_singleton, intercalate_concat, bare]
        exact fun none => alternatives.ne_nil (List.map_eq_nil_iff.mp none)
      rw [meaningful_separator _ _ rfl, row, List.map_append, List.map_cons, ih, alternative.marks]
      simp

/-- All texts of a selector say the same. -/
theorem Derives.marks {selector : Selector} (derives : Derives lexemes selector) :
    (meaningful lexemes).map mark = (bare selector).map mark := by
  cases derives with
  | empty padding =>
      rw [padding.meaningful_eq_nil]
      rfl
  | groups alternatives => exact alternatives.marks

end Grammar

theorem normalForm_of_parse {source : String} {tokens : List Token} {selector : Selector}
    (listed : Token.list source = .ok tokens) (read : parse source = .ok selector) :
    normalForm tokens = (bare selector).map Lexeme.mark := by
  rcases parse_eq_ok_iff_accepts.mp read with ⟨found, foundListed, accepts⟩
  obtain rfl : found = tokens := Except.ok.inj (foundListed.symm.trans listed)
  exact ((accepts_iff_derives (Token.cuts_of_listFrom listed).apart).mp accepts).marks

/-- Two texts with the same normal form are read as the same selector or are both no selectors, and
two texts of the same selector have the same normal form.  So blanks at the ends of a text and
next to commas and combinators mean nothing, and all other blanks do. -/
theorem normalForm_decides_parse {source other : String} {tokens otherTokens : List Token}
    (listed : Token.list source = .ok tokens) (otherListed : Token.list other = .ok otherTokens) :
    (normalForm tokens = normalForm otherTokens →
      (∃ selector, parse source = .ok selector ∧ parse other = .ok selector) ∨
        ∃ error otherError, parse source = .error error ∧ parse other = .error otherError) ∧
    ∀ selector, parse source = .ok selector → parse other = .ok selector →
      normalForm tokens = normalForm otherTokens := by
  constructor
  · intro same
    have agree (selector : Selector) :
        parse source = .ok selector ↔ parse other = .ok selector := by
      rw [parse_eq_ok_iff_finds listed, parse_eq_ok_iff_finds otherListed]
      constructor
      · intro found
        exact found.of_marks_eq same
      · intro found
        exact found.of_marks_eq same.symm
    cases read : parse source with
    | ok selector => exact .inl ⟨selector, rfl, (agree selector).mp read⟩
    | error error =>
        cases otherRead : parse other with
        | ok selector =>
            have read := read.symm.trans ((agree selector).mpr otherRead)
            cases read
        | error otherError => exact .inr ⟨error, otherError, rfl, rfl⟩
  · intro selector read otherRead
    rw [normalForm_of_parse listed read, normalForm_of_parse otherListed otherRead]

/-- Two texts of one selector: all blanks of the first but the one between its last two steps are
left out of the normal form, and so are those of the second. -/
theorem normalForm_decides_parse_of_two_spacings :
    let tokens : List Token :=
      [⟨.blank " ", ⟨0, 1, 1⟩, 1⟩, ⟨.name "a", ⟨1, 1, 2⟩, 2⟩, ⟨.blank " ", ⟨2, 1, 3⟩, 3⟩,
        ⟨.greater, ⟨3, 1, 4⟩, 4⟩, ⟨.name "b", ⟨4, 1, 5⟩, 5⟩, ⟨.comma, ⟨5, 1, 6⟩, 6⟩,
        ⟨.blank "\n", ⟨6, 1, 7⟩, 7⟩, ⟨.predicate "x", ⟨7, 2, 1⟩, 10⟩, ⟨.blank " ", ⟨10, 2, 4⟩, 11⟩,
        ⟨.star, ⟨11, 2, 5⟩, 12⟩]
    let otherTokens : List Token :=
      [⟨.name "a", ⟨0, 1, 1⟩, 1⟩, ⟨.greater, ⟨1, 1, 2⟩, 2⟩, ⟨.blank "\t", ⟨2, 1, 3⟩, 3⟩,
        ⟨.name "b", ⟨3, 1, 4⟩, 4⟩, ⟨.comma, ⟨4, 1, 5⟩, 5⟩, ⟨.predicate "x", ⟨5, 1, 6⟩, 8⟩,
        ⟨.blank "\n\n", ⟨8, 1, 9⟩, 10⟩, ⟨.star, ⟨10, 3, 1⟩, 11⟩, ⟨.blank " ", ⟨11, 3, 2⟩, 12⟩]
    Token.list " a >b,\n[x] *" = .ok tokens ∧ Token.list "a>\tb,[x]\n\n* " = .ok otherTokens ∧
      normalForm tokens = [(.name, some "a"), (.greater, none), (.name, some "b"), (.comma, none),
        (.predicate, some "x"), (.blank, none), (.star, none)] ∧
      normalForm tokens = normalForm otherTokens ∧
      ∃ selector, parse " a >b,\n[x] *" = .ok selector ∧
        parse "a>\tb,[x]\n\n* " = .ok selector := by
  intro tokens otherTokens
  have listed : Token.list " a >b,\n[x] *" = .ok tokens := by decide +kernel
  have otherListed : Token.list "a>\tb,[x]\n\n* " = .ok otherTokens := by decide +kernel
  have same : normalForm tokens = normalForm otherTokens := by decide
  refine ⟨listed, otherListed, by decide, same, ?_⟩
  rcases (normalForm_decides_parse listed otherListed).1 same with found | ⟨error, _, failed, _⟩
  · exact found
  · have read : (parse " a >b,\n[x] *").toOption.isSome = true := by decide +kernel
    rw [failed] at read
    cases read

end NodeQuery.Selector
