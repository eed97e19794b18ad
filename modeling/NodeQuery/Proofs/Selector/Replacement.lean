import NodeQuery.Proofs.Selector.Recognition

/-!
# Texts with other predicates

How a selector text is read does not depend on what stands between the brackets of its predicates,
as long as the brackets close where they did.  So a text with other bodies in place of some of its
own is read as the selector with these bodies in the same places.
-/

namespace NodeQuery

section

variable {α β : Type} {relation : α → β → Prop}

/-- What is related to a row, place by place, can be divided where the row can. -/
theorem exists_append_of_forall₂ {front behind : List α} {others : List β}
    (pairs : List.Forall₂ relation (front ++ behind) others) :
    ∃ left right, others = left ++ right ∧ List.Forall₂ relation front left ∧
      List.Forall₂ relation behind right := by
  induction front generalizing others with
  | nil => exact ⟨[], others, rfl, .nil, pairs⟩
  | cons value front ih =>
      cases pairs with
      | cons first rest =>
          obtain ⟨left, right, rfl, leftPairs, rightPairs⟩ := ih rest
          exact ⟨_ :: left, right, rfl, .cons first leftPairs, rightPairs⟩

end

/-- The second operation is the first one, or both are predicates, and the body of the first one may
be replaced by that of the second one. -/
inductive Operation.Replaces (allowed : String → String → Prop) : Operation → Operation → Prop where
  | same (operation : Operation) : Replaces allowed operation operation
  | body {body other : String} (allows : allowed body other) :
      Replaces allowed (.predicate body) (.predicate other)

/-- The groups have as many operations, and those of the one replace those of the other. -/
def Group.Replaces (allowed : String → String → Prop) (group other : Group) : Prop :=
  List.Forall₂ (Operation.Replaces allowed) group.operations other.operations

namespace Selector

/-- The second lexeme is the first one, or both are predicates, and the body of the first one may be
replaced by that of the second one. -/
inductive Lexeme.Replaces (allowed : String → String → Prop) : Lexeme → Lexeme → Prop where
  | same (lexeme : Lexeme) : Replaces allowed lexeme lexeme
  | body {body other : String} (allows : allowed body other) :
      Replaces allowed (.predicate body) (.predicate other)

variable {allowed : String → String → Prop} {lexemes others : List Lexeme}

/-! ## Lexemes -/

/-- A row without predicates is replaced by itself. -/
theorem Lexeme.eq_of_replaces (replaces : List.Forall₂ (Lexeme.Replaces allowed) lexemes others)
    (plain : ∀ body, .predicate body ∉ lexemes) : others = lexemes := by
  induction replaces with
  | nil => rfl
  | cons first _ ih =>
      have rest := ih fun body member => plain body (.tail _ member)
      cases first with
      | same => rw [rest]
      | body => exact absurd List.mem_cons_self (plain _)

theorem Lexeme.wellFormed_of_replaces {lexeme other : Lexeme}
    (replaces : Lexeme.Replaces allowed lexeme other)
    (encloses : ∀ body other, allowed body other → Delimiters.brackets.Encloses other)
    (wellFormed : lexeme.WellFormed) : other.WellFormed := by
  cases replaces with
  | same => exact wellFormed
  | body allows => exact encloses _ _ allows

theorem Lexeme.apart_of_replaces {lexeme other next further : Lexeme}
    (first : Lexeme.Replaces allowed lexeme other) (second : Lexeme.Replaces allowed next further)
    (apart : lexeme.Apart next) : other.Apart further := by
  cases first with
  | body => cases further <;> trivial
  | same =>
      cases second with
      | body => cases lexeme <;> trivial
      | same => exact apart

/-- The replaced lexemes are those of their text. -/
theorem Cuts.replaced {chars : List Char} (cuts : Cuts chars lexemes)
    (replaces : List.Forall₂ (Lexeme.Replaces allowed) lexemes others)
    (encloses : ∀ body other, allowed body other → Delimiters.brackets.Encloses other) :
    Cuts (Lexeme.rowText others) others where
  wellFormed := by
    have wellFormed := cuts.wellFormed
    clear cuts
    induction replaces with
    | nil => exact wellFormed
    | cons first _ ih =>
        obtain ⟨head, tail⟩ := List.forall_mem_cons.mp wellFormed
        exact List.forall_mem_cons.mpr ⟨Lexeme.wellFormed_of_replaces first encloses head, ih tail⟩
  apart := by
    have apart := cuts.apart
    clear cuts
    induction replaces with
    | nil => exact apart
    | cons first rest ih =>
        obtain ⟨head, tail⟩ := List.isChain_cons.mp apart
        apply List.isChain_cons.mpr
        refine ⟨?_, ih tail⟩
        cases rest with
        | nil => simp
        | cons second _ =>
            intro next found
            cases found
            exact Lexeme.apart_of_replaces first second (head _ rfl)
  text := rfl

/-! ## The grammar -/

namespace Grammar

theorem Padding.replaced (padding : Padding lexemes)
    (replaces : List.Forall₂ (Lexeme.Replaces allowed) lexemes others) : Padding others := by
  rw [Lexeme.eq_of_replaces replaces]
  · exact padding
  · cases padding with
    | none => simp
    | blank text => simp

theorem Simple.replaced {test : Operation} (simple : Simple lexemes test)
    (replaces : List.Forall₂ (Lexeme.Replaces allowed) lexemes others) :
    ∃ other, Simple others other ∧ test.Replaces allowed other := by
  cases simple with
  | predicate body =>
      cases replaces with
      | cons first none =>
          cases none
          cases first with
          | same => exact ⟨_, .predicate body, .same _⟩
          | body allows => exact ⟨_, .predicate _, .body allows⟩
  | any =>
      rw [Lexeme.eq_of_replaces replaces (by simp)]
      exact ⟨_, .any, .same _⟩
  | tag name =>
      rw [Lexeme.eq_of_replaces replaces (by simp)]
      exact ⟨_, .tag name, .same _⟩
  | id name =>
      rw [Lexeme.eq_of_replaces replaces (by simp)]
      exact ⟨_, .id name, .same _⟩
  | «class» name =>
      rw [Lexeme.eq_of_replaces replaces (by simp)]
      exact ⟨_, .class name, .same _⟩
  | pseudo name =>
      rw [Lexeme.eq_of_replaces replaces (by simp)]
      exact ⟨_, .pseudo name, .same _⟩
  | function name args =>
      rw [Lexeme.eq_of_replaces replaces (by simp)]
      exact ⟨_, .function name args, .same _⟩

/-- No predicate is replaced by a star. -/
theorem any_mem_of_replaces {tests more : List Operation}
    (replaces : List.Forall₂ (Operation.Replaces allowed) tests more)
    (member : .any ∈ more) : .any ∈ tests := by
  induction replaces with
  | nil => exact member
  | cons first _ ih =>
      cases List.mem_cons.mp member with
      | inl here =>
          cases here
          cases first
          exact List.mem_cons_self
      | inr behind => exact .tail _ (ih behind)

theorem Step.replaced {tests : List Operation} (step : Step lexemes tests)
    (replaces : List.Forall₂ (Lexeme.Replaces allowed) lexemes others) :
    ∃ more, Step others more ∧ List.Forall₂ (Operation.Replaces allowed) tests more := by
  induction step generalizing others with
  | one simple =>
      obtain ⟨other, replacedSimple, same⟩ := simple.replaced replaces
      exact ⟨[other], .one replacedSimple, .cons same .nil⟩
  | more _ noStar simple ih =>
      obtain ⟨left, right, rfl, front, behind⟩ := exists_append_of_forall₂ replaces
      obtain ⟨tests, replacedStep, same⟩ := ih front
      obtain ⟨other, replacedSimple, last⟩ := simple.replaced behind
      refine ⟨tests ++ [other], .more replacedStep ?_ replacedSimple, ?_⟩
      · intro star
        exact noStar (any_mem_of_replaces same star)
      · exact List.rel_append same (.cons last .nil)

theorem Link.replaced {link : Combinator} (joint : Link lexemes link)
    (replaces : List.Forall₂ (Lexeme.Replaces allowed) lexemes others) : Link others link := by
  cases joint with
  | descendant text =>
      rw [Lexeme.eq_of_replaces replaces (by simp)]
      exact .descendant text
  | explicit before symbol behind =>
      obtain ⟨left, row, rfl, front, rest⟩ := exists_append_of_forall₂ replaces
      cases rest with
      | cons first back =>
          cases first with
          | same => exact .explicit (before.replaced front) symbol (behind.replaced back)
          | body => cases symbol

theorem Chain.replaced {operations : List Operation} (chain : Chain lexemes operations)
    (replaces : List.Forall₂ (Lexeme.Replaces allowed) lexemes others) :
    ∃ more, Chain others more ∧ List.Forall₂ (Operation.Replaces allowed) operations more := by
  induction chain generalizing others with
  | one step =>
      obtain ⟨tests, replacedStep, same⟩ := step.replaced replaces
      exact ⟨tests, .one replacedStep, same⟩
  | @more _ _ _ _ _ link _ joint step ih =>
      obtain ⟨row, right, rfl, front, behind⟩ := exists_append_of_forall₂ replaces
      obtain ⟨left, middle, rfl, before, between⟩ := exists_append_of_forall₂ front
      obtain ⟨operations, replacedChain, first⟩ := ih before
      obtain ⟨tests, replacedStep, last⟩ := step.replaced behind
      exact ⟨operations ++ .combinator link :: tests,
        .more replacedChain (joint.replaced between) replacedStep,
        List.rel_append first (.cons (.same _) last)⟩

theorem Alternative.replaced {group : Group} (alternative : Alternative lexemes group)
    (replaces : List.Forall₂ (Lexeme.Replaces allowed) lexemes others) :
    ∃ other, Alternative others other ∧ group.Replaces allowed other := by
  cases alternative with
  | padded before chain behind =>
      obtain ⟨row, right, rfl, front, back⟩ := exists_append_of_forall₂ replaces
      obtain ⟨left, middle, rfl, first, between⟩ := exists_append_of_forall₂ front
      obtain ⟨operations, replacedChain, same⟩ := chain.replaced between
      exact ⟨⟨operations⟩, .padded (before.replaced first) replacedChain (behind.replaced back),
        same⟩

theorem Alternatives.replaced {groups : List Group} (alternatives : Alternatives lexemes groups)
    (replaces : List.Forall₂ (Lexeme.Replaces allowed) lexemes others) :
    ∃ more, Alternatives others more ∧ List.Forall₂ (Group.Replaces allowed) groups more := by
  induction alternatives generalizing others with
  | one alternative =>
      obtain ⟨other, replacedAlternative, same⟩ := alternative.replaced replaces
      exact ⟨[other], .one replacedAlternative, .cons same .nil⟩
  | more _ alternative ih =>
      obtain ⟨left, row, rfl, front, rest⟩ := exists_append_of_forall₂ replaces
      cases rest with
      | cons comma behind =>
          cases comma
          obtain ⟨groups, replacedGroups, first⟩ := ih front
          obtain ⟨other, replacedAlternative, last⟩ := alternative.replaced behind
          exact ⟨groups ++ [other], .more replacedGroups replacedAlternative,
            List.rel_append first (.cons last .nil)⟩

theorem Derives.replaced {selector : Selector} (derives : Derives lexemes selector)
    (replaces : List.Forall₂ (Lexeme.Replaces allowed) lexemes others) :
    ∃ other, Derives others other ∧
      List.Forall₂ (Group.Replaces allowed) selector.groups other.groups := by
  cases derives with
  | empty padding => exact ⟨⟨[]⟩, .empty (padding.replaced replaces), .nil⟩
  | groups alternatives =>
      obtain ⟨groups, replacedGroups, same⟩ := alternatives.replaced replaces
      exact ⟨⟨groups⟩, .groups replacedGroups, same⟩

end Grammar

/-! ## Texts -/

/-- The text with other bodies is read as the selector with these bodies. -/
theorem parse_replaced {source : String} {selector : Selector} {tokens : List Token}
    (read : parse source = .ok selector) (listed : Token.list source = .ok tokens)
    (replaces : List.Forall₂ (Lexeme.Replaces allowed) (tokens.map Token.lexeme) others)
    (encloses : ∀ body other, allowed body other → Delimiters.brackets.Encloses other) :
    ∃ other, parse (String.ofList (Lexeme.rowText others)) = .ok other ∧
      List.Forall₂ (Group.Replaces allowed) selector.groups other.groups := by
  obtain ⟨known, listedSame, derives⟩ := (parse_eq_ok_iff_derives source selector).mp read
  rw [listed] at listedSame
  cases listedSame
  obtain ⟨other, replacedDerives, same⟩ := derives.replaced replaces
  have cuts := (Token.cuts_of_listFrom listed).replaced replaces encloses
  refine ⟨other, parse_eq_ok_iff_cuts.mpr ⟨others, ?_, replacedDerives.accepts⟩, same⟩
  simpa using cuts

end Selector

end NodeQuery
