import NodeQuery.Proofs.Selector.Derivation
import NodeQuery.Proofs.Selector.Lexing
import NodeQuery.Proofs.Selector.Steps

/-!
# Printed selectors

A selector need not come from a text.  If it is well formed, its text is cut into the lexemes that
its operations were printed with, and the grammar derives the selector from these.  So reading the
text gives the selector back.
-/

namespace NodeQuery

open Selector (Lexeme Delimiters IsName)

/-! ## Well-formed selectors -/

namespace Operation

/-- The operation is a test that holds what such a test can hold. -/
def WellFormed : Operation → Prop
  | .any => True
  | .tag name | .class name | .id name | .pseudo name => IsName name
  | .predicate body => Delimiters.brackets.Encloses body
  | .function name args => IsName name ∧ Delimiters.parentheses.Encloses args
  | .combinator _ => False

instance : (operation : Operation) → Decidable operation.WellFormed
  | .any => inferInstanceAs (Decidable True)
  | .tag name | .class name | .id name | .pseudo name => inferInstanceAs (Decidable (IsName name))
  | .predicate body => inferInstanceAs (Decidable (Delimiters.brackets.Encloses body))
  | .function name args =>
      inferInstanceAs (Decidable (IsName name ∧ Delimiters.parentheses.Encloses args))
  | .combinator _ => inferInstanceAs (Decidable False)

/-- Whether a step can have the second test right behind the first one. -/
def precedes : Operation → Operation → Bool
  | .any, _ => false
  -- A name would swallow the tag behind it; brackets and parentheses end by themselves.
  | .predicate _, .tag _ | .function _ _, .tag _ => true
  | _, .tag _ => false
  | _, _ => true

end Operation

/-- The row of operations is a step: its tests are well formed, and none stands where it cannot. -/
structure IsStep (step : List Operation) : Prop where
  nonempty : step ≠ []
  tests : ∀ test ∈ step, test.WellFormed
  neighbours : step.IsChain fun test next => test.precedes next = true

instance (step : List Operation) : Decidable (IsStep step) :=
  decidable_of_iff
    (step ≠ [] ∧ (∀ test ∈ step, test.WellFormed) ∧
      step.IsChain fun test next => test.precedes next = true)
    ⟨fun ⟨nonempty, tests, neighbours⟩ => ⟨nonempty, tests, neighbours⟩,
      fun ⟨nonempty, tests, neighbours⟩ => ⟨nonempty, tests, neighbours⟩⟩

namespace IsStep

variable {test next : Operation} {step : List Operation}

theorem singleton_iff : IsStep [test] ↔ test.WellFormed := by
  constructor
  · intro isStep
    exact isStep.tests test (List.mem_singleton_self test)
  · intro wellFormed
    exact ⟨nofun, by simpa using wellFormed, .singleton test⟩

theorem cons_cons_iff :
    IsStep (test :: next :: step) ↔
      test.WellFormed ∧ test.precedes next = true ∧ IsStep (next :: step) := by
  constructor
  · rintro ⟨-, tests, neighbours⟩
    have ⟨wellFormed, others⟩ := List.forall_mem_cons.mp tests
    have ⟨precedes, chain⟩ := List.isChain_cons_cons.mp neighbours
    exact ⟨wellFormed, precedes, nofun, others, chain⟩
  · rintro ⟨wellFormed, precedes, -, others, chain⟩
    have tests := List.forall_mem_cons.mpr ⟨wellFormed, others⟩
    exact ⟨nofun, tests, List.isChain_cons_cons.mpr ⟨precedes, chain⟩⟩

end IsStep

/-- The group is a row of steps with one combinator between each two. -/
def Group.WellFormed (group : Group) : Prop :=
  ∀ step ∈ group.steps.all, IsStep step

instance (group : Group) : Decidable group.WellFormed :=
  inferInstanceAs (Decidable (∀ step ∈ group.steps.all, IsStep step))

/-- All groups are well formed. -/
def Selector.WellFormed (selector : Selector) : Prop :=
  ∀ group ∈ selector.groups, group.WellFormed

instance (selector : Selector) : Decidable selector.WellFormed :=
  inferInstanceAs (Decidable (∀ group ∈ selector.groups, group.WellFormed))

/-! ## The lexemes of a printed selector -/

/-- The lexemes that a combinator is printed with. -/
def Combinator.lexemes : Combinator → List Lexeme
  | .descendant => [.blank " "]
  | .child => [.blank " ", .greater, .blank " "]
  | .sibling => [.blank " ", .tilde, .blank " "]
  | .adjacent => [.blank " ", .plus, .blank " "]

/-- The lexemes that an operation is printed with. -/
def Operation.lexemes : Operation → List Lexeme
  | .any => [.star]
  | .tag name => [.name name]
  | .class name => [.dot, .name name]
  | .id name => [.hash, .name name]
  | .predicate body => [.predicate body]
  | .pseudo name => [.colon, .name name]
  | .function name args => [.colon, .name name, .arguments args]
  | .combinator link => link.lexemes

/-- The lexemes that a row of operations is printed with. -/
def rowLexemes (operations : List Operation) : List Lexeme :=
  operations.flatMap Operation.lexemes

/-- The lexemes that a selector is printed with. -/
def Selector.lexemes (selector : Selector) : List Lexeme :=
  match selector.groups with
  | [] => []
  | group :: groups => rowLexemes group.operations ++
      groups.flatMap fun group => [.comma, .blank " "] ++ rowLexemes group.operations

/-! ## What is printed -/

open Selector.Lexeme (rowText)

@[simp] theorem rowText_append (left right : List Lexeme) :
    rowText (left ++ right) = rowText left ++ rowText right :=
  List.flatMap_append

@[simp] theorem rowText_flatMap {α : Type} (values : List α) (lexemes : α → List Lexeme) :
    rowText (values.flatMap lexemes) = values.flatMap fun value => rowText (lexemes value) :=
  List.flatMap_assoc

theorem Operation.rowText_lexemes (operation : Operation) :
    rowText operation.lexemes = operation.text.toList := by
  cases operation with
  | combinator link => cases link <;> decide
  | _ => simp [rowText, Operation.lexemes, Operation.text, Lexeme.text]

theorem Group.rowText_lexemes (group : Group) :
    rowText (rowLexemes group.operations) = group.text.toList := by
  simp [rowLexemes, Operation.rowText_lexemes, Group.text, String.toList_join, List.flatMap_map]

/-- Separators stand in front of all parts but the first. -/
theorem intercalate_cons_eq_append_flatMap {α : Type} (separator first : List α)
    (others : List (List α)) :
    separator.intercalate (first :: others) =
      first ++ others.flatMap fun other => separator ++ other := by
  induction others generalizing first with
  | nil => simp
  | cons other others ih => simp [List.intercalate_cons_cons, ih]

theorem Selector.rowText_lexemes (selector : Selector) :
    rowText selector.lexemes = selector.text.toList := by
  rcases selector with ⟨groups⟩
  cases groups with
  | nil => rfl
  | cons group groups =>
      have separator : rowText [.comma, .blank " "] = ", ".toList := by decide
      simp only [Selector.lexemes, Selector.text, rowText_append, rowText_flatMap, separator,
        Group.rowText_lexemes, String.toList_intercalate, List.map_cons, List.map_map,
        intercalate_cons_eq_append_flatMap, List.flatMap_map, Function.comp_apply]

/-! ## Neighbours in a printed selector -/

namespace Selector

/-- Well-formed lexemes of which no two neighbours belong together and that neither start nor end
with blanks. -/
structure Solid (lexemes : List Lexeme) : Prop where
  nonempty : lexemes ≠ []
  wellFormed : ∀ lexeme ∈ lexemes, lexeme.WellFormed
  apart : lexemes.IsChain Lexeme.Apart
  starts : ∀ first ∈ lexemes.head?, ∀ text, first ≠ .blank text
  ends : ∀ last ∈ lexemes.getLast?, ∀ text, last ≠ .blank text

/-- What can stand between two solid rows. -/
structure Separates (gap : List Lexeme) : Prop where
  nonempty : gap ≠ []
  wellFormed : ∀ lexeme ∈ gap, lexeme.WellFormed
  apart : gap.IsChain Lexeme.Apart
  noNames : ∀ name, .name name ∉ gap

theorem Lexeme.apart_of_not_blank {left right : Lexeme} (notBlank : ∀ text, left ≠ .blank text)
    (notName : ∀ name, right ≠ .name name) : left.Apart right := by
  cases left with
  | blank text => exact absurd rfl (notBlank text)
  | name text =>
      cases right with
      | name name => exact absurd rfl (notName name)
      | _ => trivial
  | _ => trivial

theorem Lexeme.apart_of_not_name {left right : Lexeme} (notName : ∀ name, left ≠ .name name)
    (notBlank : ∀ text, right ≠ .blank text) : left.Apart right := by
  cases left with
  | name name => exact absurd rfl (notName name)
  | blank text =>
      cases right with
      | blank text => exact absurd rfl (notBlank text)
      | _ => trivial
  | _ => trivial

namespace Solid

variable {left right gap : List Lexeme}

theorem append (solidLeft : Solid left) (solidRight : Solid right)
    (apart : ∀ last ∈ left.getLast?, ∀ first ∈ right.head?, last.Apart first) :
    Solid (left ++ right) where
  nonempty := by simp [solidLeft.nonempty]
  wellFormed := List.forall_mem_append.mpr ⟨solidLeft.wellFormed, solidRight.wellFormed⟩
  apart := solidLeft.apart.append solidRight.apart apart
  starts := by
    rw [List.head?_append_of_ne_nil _ solidLeft.nonempty]
    exact solidLeft.starts
  ends := by
    rw [List.getLast?_append_of_ne_nil _ solidRight.nonempty]
    exact solidRight.ends

theorem separate (solidLeft : Solid left) (separates : Separates gap) (solidRight : Solid right) :
    Solid (left ++ (gap ++ right)) where
  nonempty := by simp [solidLeft.nonempty]
  wellFormed := List.forall_mem_append.mpr ⟨solidLeft.wellFormed,
    List.forall_mem_append.mpr ⟨separates.wellFormed, solidRight.wellFormed⟩⟩
  apart := by
    refine solidLeft.apart.append (separates.apart.append solidRight.apart ?_) ?_
    · intro last ending first starting
      refine Lexeme.apart_of_not_name ?_ (solidRight.starts first starting)
      rintro name rfl
      exact separates.noNames name (List.mem_of_mem_getLast? ending)
    · intro last ending first starting
      rw [List.head?_append_of_ne_nil _ separates.nonempty] at starting
      refine Lexeme.apart_of_not_blank (solidLeft.ends last ending) ?_
      rintro name rfl
      exact separates.noNames name (List.mem_of_mem_head? starting)
  starts := by
    rw [List.head?_append_of_ne_nil _ solidLeft.nonempty]
    exact solidLeft.starts
  ends := by
    rw [← List.append_assoc, List.getLast?_append_of_ne_nil _ solidRight.nonempty]
    exact solidRight.ends

end Solid

theorem isBlankRun_space : IsBlankRun " " := ⟨' ', [], rfl, rfl, by simp⟩

theorem separates_combinator (link : Combinator) : Separates link.lexemes := by
  cases link <;> constructor <;>
    simp [Combinator.lexemes, Lexeme.WellFormed, Lexeme.Apart, isBlankRun_space]

theorem separates_comma : Separates [.comma, .blank " "] := by
  constructor <;> simp [Lexeme.WellFormed, Lexeme.Apart, isBlankRun_space]

theorem solid_test {test : Operation} (wellFormed : test.WellFormed) : Solid test.lexemes := by
  cases test with
  | combinator link => cases wellFormed
  | _ =>
      constructor <;>
        simp_all [Operation.lexemes, Operation.WellFormed, Lexeme.WellFormed, Lexeme.Apart]

/-- What a test ends with and what the next one starts with stay two lexemes. -/
theorem apart_of_precedes {test next : Operation} (precedes : test.precedes next = true)
    (wellFormed : test.WellFormed) (nextWellFormed : next.WellFormed) :
    ∀ last ∈ test.lexemes.getLast?, ∀ first ∈ next.lexemes.head?, last.Apart first := by
  intro last ending first starting
  have notBlank := (solid_test wellFormed).ends last ending
  cases next with
  | combinator link => cases nextWellFormed
  | tag name =>
      -- A tag starts with a name, so the test in front of it has to end in something else.
      have notBlankNext := (solid_test nextWellFormed).starts first starting
      cases test with
      | predicate body =>
          cases ending
          exact Lexeme.apart_of_not_name nofun notBlankNext
      | function name args =>
          cases ending
          exact Lexeme.apart_of_not_name nofun notBlankNext
      | _ => cases precedes
  | _ =>
      apply Lexeme.apart_of_not_blank notBlank
      cases starting
      nofun

theorem rowLexemes_cons (operation : Operation) (operations : List Operation) :
    rowLexemes (operation :: operations) = operation.lexemes ++ rowLexemes operations :=
  List.flatMap_cons

theorem rowLexemes_append (left right : List Operation) :
    rowLexemes (left ++ right) = rowLexemes left ++ rowLexemes right :=
  List.flatMap_append

theorem solid_step {step : List Operation} (isStep : IsStep step) : Solid (rowLexemes step) := by
  induction step with
  | nil => exact absurd rfl isStep.nonempty
  | cons test step ih =>
      cases step with
      | nil => simpa [rowLexemes] using solid_test (IsStep.singleton_iff.mp isStep)
      | cons next step =>
          have ⟨wellFormed, precedes, behind⟩ := IsStep.cons_cons_iff.mp isStep
          have nextWellFormed := behind.tests next List.mem_cons_self
          rw [rowLexemes_cons]
          apply (solid_test wellFormed).append (ih behind)
          rw [rowLexemes_cons, List.head?_append_of_ne_nil _ (solid_test nextWellFormed).nonempty]
          exact apart_of_precedes precedes wellFormed nextWellFormed

/-! ## Derivations of printed selectors -/

theorem simple_of_wellFormed {test : Operation} (wellFormed : test.WellFormed) :
    Grammar.Simple test.lexemes test := by
  cases test with
  | combinator link => cases wellFormed
  | _ => constructor

theorem link_lexemes (link : Combinator) : Grammar.Link link.lexemes link := by
  have blank := Grammar.Padding.blank " "
  cases link with
  | descendant => exact .descendant " "
  | child => exact .explicit blank .greater blank
  | sibling => exact .explicit blank .tilde blank
  | adjacent => exact .explicit blank .plus blank

/-- A step grows at its front as well. -/
theorem Grammar.Step.cons {before lexemes : List Lexeme} {test : Operation}
    {tests : List Operation} (simple : Simple before test) (noStar : test ≠ .any)
    (step : Step lexemes tests) : Step (before ++ lexemes) (test :: tests) := by
  induction step with
  | one next => exact .more (.one simple) (by simpa [eq_comm] using noStar) next
  | more step noStarBefore next ih =>
      rw [← List.append_assoc, ← List.cons_append]
      exact .more ih (by simp [noStar.symm, noStarBefore]) next

theorem step_rowLexemes {step : List Operation} (isStep : IsStep step) :
    Grammar.Step (rowLexemes step) step := by
  induction step with
  | nil => exact absurd rfl isStep.nonempty
  | cons test step ih =>
      cases step with
      | nil =>
          have wellFormed := IsStep.singleton_iff.mp isStep
          simpa [rowLexemes] using Grammar.Step.one (simple_of_wellFormed wellFormed)
      | cons next step =>
          have ⟨wellFormed, precedes, behind⟩ := IsStep.cons_cons_iff.mp isStep
          have noStar : test ≠ .any := by
            rintro rfl
            cases precedes
          exact .cons (simple_of_wellFormed wellFormed) noStar (ih behind)

/-- The row is printed as some steps with a combinator between each two. -/
structure Printable (operations : List Operation) : Prop where
  chain : Grammar.Chain (rowLexemes operations) operations
  solid : Solid (rowLexemes operations)

namespace Printable

theorem step {step : List Operation} (isStep : IsStep step) : Printable step :=
  ⟨.one (step_rowLexemes isStep), solid_step isStep⟩

theorem more {operations step : List Operation} (printable : Printable operations)
    (link : Combinator) (isStep : IsStep step) :
    Printable (operations ++ .combinator link :: step) := by
  have lexemes : rowLexemes (operations ++ .combinator link :: step) =
      rowLexemes operations ++ (link.lexemes ++ rowLexemes step) := by
    rw [rowLexemes_append, rowLexemes_cons]
    rfl
  constructor
  · rw [lexemes, ← List.append_assoc]
    exact .more printable.chain (link_lexemes link) (step_rowLexemes isStep)
  · rw [lexemes]
    exact printable.solid.separate (separates_combinator link) (solid_step isStep)

theorem extend {operations : List Operation} (printable : Printable operations)
    {further : List (Combinator × List Operation)} (steps : ∀ entry ∈ further, IsStep entry.2) :
    Printable (operations ++ further.flatMap fun (link, step) => .combinator link :: step) := by
  induction further generalizing operations with
  | nil => simpa using printable
  | cons entry further ih =>
      rcases List.forall_mem_cons.mp steps with ⟨isStep, others⟩
      rw [List.flatMap_cons, ← List.append_assoc]
      exact ih (printable.more entry.1 isStep) others

theorem group {group : Group} (wellFormed : group.WellFormed) : Printable group.operations := by
  rcases List.forall_mem_cons.mp wellFormed with ⟨first, further⟩
  rw [← Steps.operations_ofOperations group.operations]
  exact (Printable.step first).extend (List.forall_mem_map.mp further)

end Printable

theorem alternatives_extend {lexemes : List Lexeme} {groups others : List Group}
    (alternatives : Grammar.Alternatives lexemes groups) (solid : Solid lexemes)
    (printable : ∀ group ∈ others, Printable group.operations) :
    Grammar.Alternatives
        (lexemes ++ others.flatMap fun group =>
          [.comma, .blank " "] ++ rowLexemes group.operations) (groups ++ others) ∧
      Solid (lexemes ++ others.flatMap fun group =>
        [.comma, .blank " "] ++ rowLexemes group.operations) := by
  -- The relation grows at its end, so the row in front takes up one group after the other.
  induction others generalizing lexemes groups with
  | nil => simpa using ⟨alternatives, solid⟩
  | cons group others ih =>
      rcases List.forall_mem_cons.mp printable with ⟨⟨chain, solidGroup⟩, printableOthers⟩
      -- The blank behind the comma is padding of the group that follows.
      have alternative : Grammar.Alternative (.blank " " :: rowLexemes group.operations) group := by
        simpa using Grammar.Alternative.padded (.blank " ") chain .none
      have longer := ih (.more alternatives alternative)
        (solid.separate separates_comma solidGroup) printableOthers
      simpa using longer

/-- A well-formed selector is derived from the lexemes that it is printed with, and these are the
lexemes of its text. -/
theorem WellFormed.derives {selector : Selector} (wellFormed : selector.WellFormed) :
    Grammar.Derives selector.lexemes selector ∧ Cuts selector.text.toList selector.lexemes := by
  have text := selector.rowText_lexemes
  rcases selector with ⟨groups⟩
  cases groups with
  | nil => exact ⟨.empty .none, .nil⟩
  | cons group groups =>
      obtain ⟨⟨chain, solid⟩, others⟩ :=
        List.forall_mem_cons.mp fun group member => Printable.group (wellFormed group member)
      have alternative : Grammar.Alternative (rowLexemes group.operations) group := by
        simpa using Grammar.Alternative.padded .none chain .none
      rcases alternatives_extend (.one alternative) solid others with ⟨alternatives, whole⟩
      exact ⟨.groups alternatives, whole.wellFormed, whole.apart, text⟩

/-- Reading the text of a well-formed selector gives the selector back. -/
theorem parse_text {selector : Selector} (wellFormed : selector.WellFormed) :
    parse selector.text = .ok selector := by
  rcases wellFormed.derives with ⟨derives, cuts⟩
  rcases Token.list_eq_ok_iff_cuts.mpr cuts with ⟨tokens, listed, lexemes⟩
  exact parse_eq_ok_iff_accepts.mpr ⟨tokens, listed, lexemes ▸ derives.accepts⟩

/-- Two groups with every kind of test and combinator, and with tests side by side whose texts
could run into each other. -/
def crowded : Selector :=
  ⟨[⟨[.tag "div", .id "a", .class "b-1", .predicate "@x == \"]\" && [y]", .tag "span",
        .function "not" "a(b)", .tag "em", .combinator .sibling, .any]⟩,
    ⟨[.pseudo "first", .predicate "", .tag "_", .combinator .child, .tag "p",
        .combinator .adjacent, .class "q", .any, .combinator .descendant, .tag "-x"]⟩]⟩

theorem parse_text_of_crowded : crowded.WellFormed ∧
    crowded.text = "div#a.b-1[@x == \"]\" && [y]]span:not(a(b))em ~ *, :first[]_ > p + .q* -x" ∧
    parse crowded.text = .ok crowded := by
  have wellFormed : crowded.WellFormed := by decide
  exact ⟨wellFormed, by decide, parse_text wellFormed⟩

end Selector

end NodeQuery
