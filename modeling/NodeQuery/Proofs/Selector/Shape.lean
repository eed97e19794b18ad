import NodeQuery.Proofs.Selector.Descent
import NodeQuery.Proofs.Selector.Printing
import NodeQuery.Proofs.Selector.Recognition

/-!
# The shape of parsed selectors

What the grammar derives from the lexemes of a text is well formed.  The grammar sees to it that
combinators stand between steps only; the cut of the text, that names do not touch and that bodies
are closed where they end.
-/

namespace NodeQuery

open Selector (Lexeme TestsAtEdges)

/-! ## Groups operation by operation -/

namespace Operation

/-- Whether the second operation can stand right behind the first one. -/
def adjoins : Operation → Operation → Bool
  | .combinator _, next => !next.isCombinator
  | _, .combinator _ => true
  | test, next => test.precedes next

theorem adjoins_of_precedes {test next : Operation} (precedes : test.precedes next = true)
    (isTest : test.isCombinator = false) (isNextTest : next.isCombinator = false) :
    test.adjoins next = true := by
  cases test with
  | combinator link => cases isTest
  | _ =>
      cases next with
      | combinator link => cases isNextTest
      | _ => exact precedes

theorem adjoins_combinator {test : Operation} (isTest : test.isCombinator = false)
    (link : Combinator) : test.adjoins (.combinator link) = true := by
  cases test with
  | combinator link => cases isTest
  | _ => rfl

theorem WellFormed.isTest {operation : Operation} (wellFormed : operation.WellFormed) :
    operation.isCombinator = false := by
  cases operation with
  | combinator link => cases wellFormed
  | _ => rfl

end Operation

/-- The row is a group: its first and its last operation are tests, neighbours are such as can
stand side by side, and all tests are well formed.  So there is exactly one combinator between two
steps. -/
structure Shape (operations : List Operation) : Prop where
  nonempty : operations ≠ []
  edges : TestsAtEdges operations
  neighbours : operations.IsChain fun operation next => operation.adjoins next = true
  tests : ∀ operation ∈ operations, operation.isCombinator = false → operation.WellFormed

namespace Shape

variable {operations step : List Operation}

theorem ofStep (isStep : IsStep step) : Shape step where
  nonempty := isStep.nonempty
  edges := by
    have areTests (test : Operation) (member : test ∈ step) := (isStep.tests test member).isTest
    exact ⟨fun first starting => areTests first (List.mem_of_mem_head? starting),
      fun last ending => areTests last (List.mem_of_mem_getLast? ending)⟩
  neighbours := by
    apply isStep.neighbours.imp_of_mem_imp
    intro test next member nextMember precedes
    exact Operation.adjoins_of_precedes precedes (isStep.tests test member).isTest
      (isStep.tests next nextMember).isTest
  tests operation member _ := isStep.tests operation member

theorem more (shape : Shape operations) (link : Combinator) (isStep : IsStep step) :
    Shape (operations ++ .combinator link :: step) where
  nonempty := by simp
  edges := by
    rw [List.append_cons]
    apply shape.edges.append _ isStep.nonempty
    · intro test member
      exact (isStep.tests test member).isTest
    · exact fun empty => absurd empty shape.nonempty
  neighbours := by
    have behind := ofStep isStep
    refine shape.neighbours.append (List.isChain_cons.mpr ⟨?_, behind.neighbours⟩) ?_
    · intro first starting
      simp [Operation.adjoins, behind.edges.1 first starting]
    · rintro last ending _ ⟨⟩
      exact Operation.adjoins_combinator (shape.edges.2 last ending) link
  tests := by
    rw [List.forall_mem_append, List.forall_mem_cons]
    exact ⟨shape.tests, nofun, (ofStep isStep).tests⟩

theorem extend (shape : Shape operations) {further : List (Combinator × List Operation)}
    (steps : ∀ entry ∈ further, IsStep entry.2) :
    Shape (operations ++ further.flatMap fun (link, step) => .combinator link :: step) := by
  induction further generalizing operations with
  | nil => simpa using shape
  | cons entry further ih =>
      rcases List.forall_mem_cons.mp steps with ⟨isStep, others⟩
      rw [List.flatMap_cons, ← List.append_assoc]
      exact ih (shape.more entry.1 isStep) others

end Shape

theorem Group.WellFormed.shape {group : Group} (wellFormed : group.WellFormed) :
    Shape group.operations := by
  rcases List.forall_mem_cons.mp wellFormed with ⟨first, further⟩
  rw [← Steps.operations_ofOperations group.operations]
  exact (Shape.ofStep first).extend (List.forall_mem_map.mp further)

namespace Steps

/-- Tests without a combinator are one step. -/
theorem ofOperations_of_tests {tests : List Operation}
    (areTests : ∀ test ∈ tests, test.isCombinator = false) : ofOperations tests = ⟨tests, []⟩ := by
  induction tests with
  | nil => rfl
  | cons test tests ih =>
      rcases List.forall_mem_cons.mp areTests with ⟨isTest, others⟩
      rw [ofOperations, ih others]
      cases test with
      | combinator link => cases isTest
      | _ => rfl

/-- A combinator ends one step and starts the next one. -/
theorem ofOperations_append_combinator (operations : List Operation) (link : Combinator)
    (others : List Operation) :
    ofOperations (operations ++ .combinator link :: others) =
      ⟨(ofOperations operations).first, (ofOperations operations).further ++
        (link, (ofOperations others).first) :: (ofOperations others).further⟩ := by
  induction operations with
  | nil => rfl
  | cons operation operations ih =>
      rw [List.cons_append, ofOperations, ih, ofOperations]
      cases operation <;> rfl

end Steps

theorem IsStep.wellFormed {step : List Operation} (isStep : IsStep step) :
    Group.WellFormed ⟨step⟩ := by
  have areTests (test : Operation) (member : test ∈ step) := (isStep.tests test member).isTest
  rw [Group.WellFormed, Group.steps, Steps.ofOperations_of_tests areTests]
  exact List.forall_mem_singleton.mpr isStep

theorem Group.WellFormed.more {operations step : List Operation}
    (wellFormed : Group.WellFormed ⟨operations⟩) (link : Combinator) (isStep : IsStep step) :
    Group.WellFormed ⟨operations ++ .combinator link :: step⟩ := by
  have areTests (test : Operation) (member : test ∈ step) := (isStep.tests test member).isTest
  rcases List.forall_mem_cons.mp wellFormed with ⟨first, further⟩
  rw [Group.WellFormed, Group.steps, Steps.ofOperations_append_combinator,
    Steps.ofOperations_of_tests areTests, Steps.all, List.forall_mem_cons, List.map_append,
    List.forall_mem_append]
  exact ⟨first, further, List.forall_mem_singleton.mpr isStep⟩

/-! ## Rows of lexemes that are cut from a text -/

namespace Selector

/-- Well-formed lexemes of which no two neighbours belong together. -/
structure Tidy (lexemes : List Lexeme) : Prop where
  wellFormed : ∀ lexeme ∈ lexemes, lexeme.WellFormed
  apart : lexemes.IsChain Lexeme.Apart

namespace Tidy

variable {front behind : List Lexeme}

theorem left (tidy : Tidy (front ++ behind)) : Tidy front :=
  ⟨(List.forall_mem_append.mp tidy.wellFormed).1, (List.isChain_append.mp tidy.apart).1⟩

theorem right (tidy : Tidy (front ++ behind)) : Tidy behind :=
  ⟨(List.forall_mem_append.mp tidy.wellFormed).2, (List.isChain_append.mp tidy.apart).2.1⟩

theorem neighbours (tidy : Tidy (front ++ behind)) :
    ∀ last ∈ front.getLast?, ∀ first ∈ behind.head?, last.Apart first :=
  (List.isChain_append.mp tidy.apart).2.2

end Tidy

namespace Grammar

theorem Simple.wellFormed {lexemes : List Lexeme} {test : Operation} (simple : Simple lexemes test)
    (tidy : Tidy lexemes) : test.WellFormed := by
  have wellFormed := tidy.wellFormed
  cases simple <;> simp_all [Lexeme.WellFormed, Operation.WellFormed]

/-- Of two tests side by side the second one is a tag only if the first one does not end in a
name. -/
theorem Simple.precedes {left right : List Lexeme} {test next : Operation}
    (before : Simple left test) (noStar : test ≠ .any) (behind : Simple right next)
    (apart : ∀ last ∈ left.getLast?, ∀ first ∈ right.head?, last.Apart first) :
    test.precedes next = true := by
  cases behind with
  | tag name => cases before <;> simp [Lexeme.Apart, Operation.precedes] at apart noStar ⊢
  | _ => cases before <;> first | rfl | exact absurd rfl noStar

/-- A step ends with the lexemes of its last test. -/
theorem Step.last {lexemes : List Lexeme} {tests : List Operation} (step : Step lexemes tests) :
    ∃ before own front test, lexemes = before ++ own ∧ tests = front ++ [test] ∧
      Simple own test := by
  cases step with
  | one simple => exact ⟨[], _, [], _, rfl, rfl, simple⟩
  | more step noStar simple => exact ⟨_, _, _, _, rfl, rfl, simple⟩

theorem Step.isStep {lexemes : List Lexeme} {tests : List Operation} (step : Step lexemes tests)
    (tidy : Tidy lexemes) : IsStep tests := by
  induction step with
  | one simple => exact IsStep.singleton_iff.mpr (simple.wellFormed tidy)
  | @more before own tests test step noStar simple ih =>
      have front := ih tidy.left
      refine ⟨by simp, ?_, ?_⟩
      · rw [List.forall_mem_append, List.forall_mem_singleton]
        exact ⟨front.tests, simple.wellFormed tidy.right⟩
      · rcases step.last with ⟨_, _, _, previous, rfl, rfl, lastSimple⟩
        apply front.neighbours.append (.singleton test)
        rintro last ending _ ⟨⟩
        obtain rfl : previous = last := by simpa using ending
        refine lastSimple.precedes ?_ simple ?_
        · rintro rfl
          simp at noStar
        · intro lexeme ending
          exact tidy.neighbours lexeme (List.mem_getLast?_append_of_mem_getLast? ending)

theorem Chain.wellFormed {lexemes : List Lexeme} {operations : List Operation}
    (chain : Chain lexemes operations) (tidy : Tidy lexemes) : Group.WellFormed ⟨operations⟩ := by
  induction chain with
  | one step => exact (step.isStep tidy).wellFormed
  | more chain joint step ih => exact (ih tidy.left.left).more _ (step.isStep tidy.right)

theorem Alternative.wellFormed {lexemes : List Lexeme} {group : Group}
    (alternative : Alternative lexemes group) (tidy : Tidy lexemes) : group.WellFormed := by
  cases alternative with
  | padded before chain behind => exact chain.wellFormed tidy.left.right

theorem Alternatives.wellFormed {lexemes : List Lexeme} {groups : List Group}
    (alternatives : Alternatives lexemes groups) (tidy : Tidy lexemes) :
    ∀ group ∈ groups, group.WellFormed := by
  induction alternatives with
  | one alternative => simpa using alternative.wellFormed tidy
  | @more before lexemes groups group alternatives alternative ih =>
      rw [List.forall_mem_append, List.forall_mem_singleton]
      rw [List.append_cons] at tidy
      exact ⟨ih tidy.left.left, alternative.wellFormed tidy.right⟩

theorem Derives.wellFormed {lexemes : List Lexeme} {selector : Selector}
    (derives : Derives lexemes selector) (tidy : Tidy lexemes) : selector.WellFormed := by
  cases derives with
  | empty => exact nofun
  | groups alternatives => exact alternatives.wellFormed tidy

end Grammar

theorem wellFormed_of_parse {source : String} {selector : Selector}
    (read : parse source = .ok selector) : selector.WellFormed := by
  rcases parse_eq_ok_iff_accepts.mp read with ⟨tokens, listed, accepts⟩
  have cuts := Token.cuts_of_listFrom listed
  exact ((accepts_iff_derives cuts.apart).mp accepts).wellFormed ⟨cuts.wellFormed, cuts.apart⟩

/-- A parsed selector is well formed, however long its text is, and so are its groups operation by
operation.  The descent therefore finds in every text what the parser finds, a selector or an
error in the text, and breaks none of its assertions. -/
theorem parse_well_shaped (source : String) :
    (∀ selector, parse source = .ok selector →
      selector.WellFormed ∧ ∀ group ∈ selector.groups, Shape group.operations) ∧
      Descent.parse source = (parse source).mapError .rejected ∧
      ∀ assertion, Descent.parse source ≠ .error (.broken assertion) := by
  refine ⟨fun selector read => ?_, Descent.parse_eq source, fun assertion broken => ?_⟩
  · have wellFormed := wellFormed_of_parse read
    exact ⟨wellFormed, fun group member => (wellFormed group member).shape⟩
  · rw [Descent.parse_eq] at broken
    cases found : parse source with
    | error error => simp [found, Except.mapError] at broken
    | ok selector => simp [found, Except.mapError] at broken

theorem parse_well_shaped_of_crowded :
    parse crowded.text = .ok crowded ∧ crowded.WellFormed ∧
      (∀ group ∈ crowded.groups, Shape group.operations) ∧
      Descent.parse crowded.text = .ok crowded := by
  have wellFormed : crowded.WellFormed := by decide
  rcases wellFormed.derives with ⟨derives, cuts⟩
  rcases Token.list_eq_ok_iff_cuts.mpr cuts with ⟨tokens, listed, lexemes⟩
  have read : parse crowded.text = .ok crowded :=
    parse_eq_ok_iff_accepts.mpr ⟨tokens, listed, lexemes ▸ derives.accepts⟩
  have ⟨shaped, same, _⟩ := parse_well_shaped crowded.text
  exact ⟨read, (shaped _ read).1, (shaped _ read).2, same.trans (by rw [read]; rfl)⟩

end Selector

end NodeQuery
