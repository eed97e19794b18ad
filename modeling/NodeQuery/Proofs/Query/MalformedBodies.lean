import NodeQuery.Proofs.Predicate.Bracketing
import NodeQuery.Proofs.Query.Merging
import NodeQuery.Proofs.Query.Redundancy
import NodeQuery.Proofs.Selector.Replacement

/-!
# Malformed predicates

A predicate whose body cannot be read is an error only where it is applied to a node.  If a query
has an answer, no such predicate has been applied: its error would have been among the items, and
no step takes an error that it has asked for out of them.  So it does not matter for the answer what
stands in the place of the body.
-/

namespace NodeQuery

variable {Node Key : Type}

namespace Predicate

/-- The text cannot be read as a predicate that nests at most so many levels deep. -/
def Malformed (nesting : Nat) (body : String) : Prop :=
  ∃ error, parse body nesting = .error error

/-- The first body cannot be read, and the second one closes where its brackets do. -/
def Mends (nesting : Nat) (body other : String) : Prop :=
  Malformed nesting body ∧ Selector.Delimiters.brackets.Encloses other

theorem Malformed.matches_eq {nesting : Nat} {body : String} (malformed : Malformed nesting body) :
    ∃ error, ∀ view, (Compiled.ofBody body nesting).matches? view = .error error := by
  obtain ⟨error, unread⟩ := malformed
  refine ⟨.ofSyntaxError body error, ?_⟩
  intro view
  rw [Compiled.ofBody, unread, Compiled.matches?]

end Predicate

namespace Eager

/-! ## Lists that some error cuts off -/

/-- The lists are the same up to a place where the first one has an error, if there is such a
place. -/
def CutSomewhere (left right : List (Item Node)) : Prop :=
  ∃ error, CutBy error left right

namespace CutSomewhere

variable {left right left' right' : List (Item Node)}

theorem refl (items : List (Item Node)) : CutSomewhere items items :=
  ⟨.query (.depthLimitExceeded 0), .never items⟩

theorem append (first : CutSomewhere left right) (second : CutSomewhere left' right') :
    CutSomewhere (left ++ left') (right ++ right') := by
  obtain ⟨error, cut⟩ := first
  cases cut with
  | never =>
      obtain ⟨other, behind⟩ := second
      exact ⟨other, (CutBy.never left).append behind⟩
  | behind front cut whole =>
      exact ⟨error, by simpa using CutBy.behind front (cut ++ left') (whole ++ right')⟩

theorem flatMap {α β : Type} {relation : α → β → Prop} {values : List α} {others : List β}
    {f : α → List (Item Node)} {g : β → List (Item Node)}
    (pairs : List.Forall₂ relation values others)
    (cuts : ∀ value other, relation value other → CutSomewhere (f value) (g other)) :
    CutSomewhere (values.flatMap f) (others.flatMap g) := by
  induction pairs with
  | nil => exact .refl []
  | cons first _ ih => exact (cuts _ _ first).append ih

/-- If every node is replaced by an error in the first list, it does not matter what it is replaced
by in the second one. -/
theorem replaceNodes_of_failing {f g : Node → List (Item Node)} (fault : Error)
    (fails : ∀ node, f node = [.error fault]) (cut : CutSomewhere left right) :
    CutSomewhere (replaceNodes f left) (replaceNodes g right) := by
  have same (items : List (Item Node)) :
      CutBy fault (replaceNodes f items) (replaceNodes g items) := by
    apply (CutBy.never items).replaceNodes
    intro node
    rw [fails]
    exact .atOnce _ _
  obtain ⟨error, cut⟩ := cut
  cases cut with
  | never => exact ⟨fault, same left⟩
  | behind front cut whole =>
      have front : CutSomewhere (replaceNodes f front) (replaceNodes g front) := ⟨fault, same front⟩
      have replaced := front.append ⟨error, .atOnce (replaceNodes f cut) (replaceNodes g whole)⟩
      simpa [replaceNodes] using replaced

end CutSomewhere

/-- The outcomes fail alike, or some error cuts the first list off. -/
def OutcomesCutSomewhere (left right : Except QueryError (List (Item Node))) : Prop :=
  ∃ error, OutcomesCutBy error left right

namespace OutcomesCutSomewhere

variable {left right : Except QueryError (List (Item Node))}

theorem made {items others : List (Item Node)} (cut : CutSomewhere items others) :
    OutcomesCutSomewhere (.ok items) (.ok others) := by
  obtain ⟨error, cut⟩ := cut
  exact ⟨error, .made cut⟩

theorem bind {f g : List (Item Node) → Except QueryError (List (Item Node))}
    (outcomes : OutcomesCutSomewhere left right)
    (onward : ∀ {items others}, CutSomewhere items others →
      OutcomesCutSomewhere (f items) (g others)) :
    OutcomesCutSomewhere (left >>= f) (right >>= g) := by
  obtain ⟨error, outcomes⟩ := outcomes
  cases outcomes with
  | failed fault => exact ⟨error, .failed fault⟩
  | made cut => exact onward ⟨error, cut⟩

theorem items (outcomes : OutcomesCutSomewhere left right) :
    CutSomewhere (outcomeItems left) (outcomeItems right) := by
  obtain ⟨error, outcomes⟩ := outcomes
  exact ⟨error, outcomes.items⟩

end OutcomesCutSomewhere

/-! ## Steps -/

variable {model : NodeModel Node Key} {provider : Provider Node} {maxDepth nesting : Nat}
variable {allowed : String → String → Prop} {left right : List (Item Node)}

/-- A predicate that cannot be read makes an error of the first node that it is applied to.  Up to
there, a step with another body makes the same of the items. -/
theorem cut_step_of_replaces
    (malformed : ∀ body other, allowed body other → Predicate.Malformed nesting body)
    {operation other : Operation} (replaces : operation.Replaces allowed other)
    (cut : CutSomewhere left right) :
    OutcomesCutSomewhere (step model provider maxDepth left (.ofOperation nesting operation))
      (step model provider maxDepth right (.ofOperation nesting other)) := by
  cases replaces with
  | same =>
      obtain ⟨error, cut⟩ := cut
      exact ⟨error, cutBy_step model (fun _ => .never _) cut _⟩
  | body allows =>
      obtain ⟨fault, fails⟩ := (malformed _ _ allows).matches_eq
      apply OutcomesCutSomewhere.made
      apply cut.replaceNodes_of_failing (.predicate fault)
      intro node
      simp only [fails]

theorem cut_steps_of_replaces
    (malformed : ∀ body other, allowed body other → Predicate.Malformed nesting body)
    {operations others : List Operation}
    (replaces : List.Forall₂ (Operation.Replaces allowed) operations others)
    (cut : CutSomewhere left right) :
    OutcomesCutSomewhere
      ((operations.map (Step.ofOperation nesting)).foldlM (step model provider maxDepth) left)
      ((others.map (Step.ofOperation nesting)).foldlM (step model provider maxDepth) right) := by
  induction replaces generalizing left right with
  | nil => exact .made cut
  | cons first _ ih =>
      rw [List.map_cons, List.map_cons, List.foldlM_cons, List.foldlM_cons]
      exact (cut_step_of_replaces malformed first cut).bind ih

/-- The root of a walk, if the walk is not cut at once, is the first node to be tested. -/
theorem group_of_malformed (model : NodeModel Node Key) (provider : Provider Node)
    (maxDepth : Nat) {body : String} (malformed : Predicate.Malformed nesting body) (root : Node) :
    ∃ error behind, group model provider maxDepth [.ofOperation nesting (.predicate body)] root =
      .ok (.error error :: behind) := by
  obtain ⟨fault, fails⟩ := malformed.matches_eq
  have tested : group model provider maxDepth [.ofOperation nesting (.predicate body)] root =
      .ok (replaceNodes (fun _ => [.error (.predicate fault)]) (walk provider maxDepth root)) := by
    simp only [group, Step.ofOperation, List.foldlM_cons, step, testNodes, fails]
    rfl
  rw [tested]
  cases walk_eq_cons provider maxDepth root with
  | inl cut =>
      rw [cut]
      exact ⟨_, _, rfl⟩
  | inr listed =>
      obtain ⟨below, listed⟩ := listed
      rw [listed]
      exact ⟨_, _, rfl⟩

end Eager

/-! ## Programs -/

section

variable {allowed : String → String → Prop} {registry : Registry Node} {nesting : Nat}

theorem Operation.Replaces.fault? {operation other : Operation}
    (replaces : operation.Replaces allowed other) :
    operation.fault? registry = other.fault? registry := by
  cases replaces with
  | same => rfl
  | body => rfl

theorem Operation.fault?_of_replaces {operations others : List Operation}
    (replaces : List.Forall₂ (Operation.Replaces allowed) operations others) :
    operations.findSome? (Operation.fault? registry) =
      others.findSome? (Operation.fault? registry) := by
  induction replaces with
  | nil => rfl
  | cons first _ ih => rw [List.findSome?_cons, List.findSome?_cons, first.fault?, ih]

/-- Selectors that differ in bodies only have their names resolved alike. -/
theorem Selector.fault?_of_replaces {selector other : Selector}
    (replaces : List.Forall₂ (Group.Replaces allowed) selector.groups other.groups) :
    selector.fault? registry = other.fault? registry :=
  Operation.fault?_of_replaces (List.rel_flatMap replaces fun _ _ row => row)

theorem Program.exists_resolve_of_replaces {source source' : String} {selector other : Selector}
    (replaces : List.Forall₂ (Group.Replaces allowed) selector.groups other.groups)
    {plan : List (List (Stage Node))}
    (resolved : (Program.ofSelector source selector nesting).resolve registry = .ok plan) :
    ∃ plan', (Program.ofSelector source' other nesting).resolve registry = .ok plan' := by
  apply Program.exists_resolve_eq_ok
  rw [← Selector.fault?_of_replaces replaces]
  exact Program.faultless_of_resolve resolved

end

open Eager

section

variable {model : NodeModel Node Key} {provider : Provider Node} {limits : Limits}
variable {allowed : String → String → Prop}

/-- All items of a query are the same with other bodies up to an error. -/
theorem cut_allItems_of_replaces {nesting : Nat}
    (malformed : ∀ body other, allowed body other → Predicate.Malformed nesting body)
    {source source' : String} {selector other : Selector}
    (replaces : List.Forall₂ (Group.Replaces allowed) selector.groups other.groups)
    {plan plan' : List (List (Stage Node))}
    (resolved : (Program.ofSelector source selector nesting).resolve .builtin = .ok plan)
    (resolved' : (Program.ofSelector source' other nesting).resolve .builtin = .ok plan')
    (roots : List Node) :
    CutSomewhere (allItems model ⟨provider, limits⟩ plan roots)
      (allItems model ⟨provider, limits⟩ plan' roots) := by
  rw [allItems_eq resolved, allItems_eq resolved']
  apply CutSomewhere.flatMap (List.forall₂_same.mpr fun _ _ => Eq.refl _)
  rintro root _ rfl
  simp only [Program.ofSelector, List.flatMap_map]
  apply CutSomewhere.flatMap replaces
  intro group other row
  exact (cut_steps_of_replaces malformed row (.refl _)).items

variable [BEq Key] [Hashable Key]

/-- An answer stays what it is if bodies that cannot be read are replaced. -/
theorem run_of_replaces
    (malformed : ∀ body other, allowed body other →
      Predicate.Malformed limits.predicateNesting body)
    {source source' : String} {selector other : Selector}
    (replaces : List.Forall₂ (Group.Replaces allowed) selector.groups other.groups)
    {roots found : List Node}
    (answered : (Program.ofSelector source selector limits.predicateNesting).run model provider
      .builtin limits roots = .ok found) :
    (Program.ofSelector source' other limits.predicateNesting).run model provider .builtin limits
      roots = .ok found := by
  obtain ⟨plan, looked, _⟩ := bind_eq_ok.mp answered
  have resolved := mapError_eq_ok.mp looked
  obtain ⟨plan', resolved'⟩ := Program.exists_resolve_of_replaces replaces resolved
  obtain ⟨error, cut⟩ : CutSomewhere (allItems model ⟨provider, limits⟩ plan roots)
      (allItems model ⟨provider, limits⟩ plan' roots) :=
    cut_allItems_of_replaces malformed replaces resolved resolved' roots
  rw [run_eq_foldlM resolved] at answered
  rw [run_eq_foldlM resolved', cut.foldlM_addItem]
  · exact answered
  · intro failed
    rw [failed] at answered
    cases answered

/-- The first node to which a malformed predicate is applied ends the query. -/
theorem run_malformed_ne_ok {body : String}
    (malformed : Predicate.Malformed limits.predicateNesting body) (source : String) (root : Node)
    (found : List Node) :
    (Program.ofSelector source ⟨[⟨[.predicate body]⟩]⟩ limits.predicateNesting).run model provider
      .builtin limits [root] ≠ .ok found := by
  have resolved : (Program.ofSelector source ⟨[⟨[.predicate body]⟩]⟩
      limits.predicateNesting).resolve .builtin =
        .ok [[(.predicate (.ofBody body limits.predicateNesting) : Stage Node)]] := rfl
  obtain ⟨error, behind, failing⟩ :=
    group_of_malformed model provider limits.maxDepth malformed root
  intro answered
  rw [run_eq_foldlM resolved, allItems_eq resolved] at answered
  simp only [Program.ofSelector, List.flatMap_cons, List.map_cons, List.map_nil, failing,
    outcomeItems] at answered
  cases answered

end

/-! ## Texts -/

theorem Selector.parse_bracketed {body : String}
    (encloses : Selector.Delimiters.brackets.Encloses body) :
    Selector.parse ("[" ++ body ++ "]") = .ok ⟨[⟨[.predicate body]⟩]⟩ := by
  rw [Selector.parse, Selector.Token.list_of_encloses encloses]
  rfl

/-- Every text of a selector is compiled, whatever stands in its predicates.  If a query with the
builtin transforms has an answer, it keeps this answer if any of the bodies that cannot be read are
replaced, each by any text that closes where the brackets do.  By themselves such bodies are applied
to the first root, and have no answer. -/
theorem malformed_bodies_fail_only_where_applied [BEq Key] [Hashable Key]
    (model : NodeModel Node Key) (provider : Provider Node) (limits : Limits) :
    (∀ source selector, Selector.parse source = .ok selector →
      ∀ nesting, Program.compile source nesting = .ok (.ofSelector source selector nesting)) ∧
    (∀ (source : String) (tokens : List Selector.Token) (others : List Selector.Lexeme)
      (roots found : List Node),
      Selector.Token.list source = .ok tokens →
      List.Forall₂ (Selector.Lexeme.Replaces (Predicate.Mends limits.predicateNesting))
        (tokens.map Selector.Token.lexeme) others →
      answer model provider .builtin limits source roots = .ok found →
      answer model provider .builtin limits (String.ofList (Selector.Lexeme.rowText others))
        roots = .ok found) ∧
    ∀ body, Predicate.Malformed limits.predicateNesting body →
      Selector.Delimiters.brackets.Encloses body → ∀ root found,
        answer model provider .builtin limits ("[" ++ body ++ "]") [root] ≠ .ok found := by
  refine ⟨?_, ?_, ?_⟩
  · intro source selector read nesting
    rw [Program.compile, read]
    rfl
  · intro source tokens others roots found listed replaces answered
    cases read : Selector.parse source with
    | error error =>
        rw [answer, Program.compile, read] at answered
        cases answered
    | ok selector =>
        obtain ⟨other, readOther, groups⟩ :=
          Selector.parse_replaced read listed replaces fun _ _ mends => mends.2
        rw [answer_of_parse model provider .builtin limits read] at answered
        rw [answer_of_parse model provider .builtin limits readOther]
        exact run_of_replaces (fun _ _ mends => mends.1) groups answered
  · intro body malformed encloses root found
    rw [answer_of_parse model provider .builtin limits (Selector.parse_bracketed encloses)]
    exact run_malformed_ne_ok malformed _ root found

/-- The malformed body waits for a child of the node 1, which has none, and can be any other. -/
theorem malformed_bodies_fail_only_where_applied_below_leaf :
    let model : NodeModel Nat Nat := {
      key := id
      tag := fun node => if node = 0 then some "a" else some "b"
      children := fun
        | 0 => some [1]
        | _ => none }
    let query := answer model model.hooks .builtin ⟨2, 1⟩
    Predicate.Malformed 1 "==" ∧ query "b > [==],a" [0] = .ok [0] ∧
      query "b > [true],a" [0] = .ok [0] ∧ query "[==]" [0] ≠ .ok [0] := by
  intro model query
  have malformed : Predicate.Malformed 1 "==" := ⟨_, by with_unfolding_all rfl⟩
  have mends : Predicate.Mends 1 "==" "true" := ⟨malformed, by decide +kernel⟩
  let front : List Selector.Lexeme := [.name "b", .blank " ", .greater, .blank " "]
  let behind : List Selector.Lexeme := [.comma, .name "a"]
  have scanned : (Selector.Token.list "b > [==],a").map (List.map Selector.Token.lexeme) =
      .ok (front ++ .predicate "==" :: behind) := by decide +kernel
  have same (row : List Selector.Lexeme) :
      List.Forall₂ (Selector.Lexeme.Replaces (Predicate.Mends 1)) row row :=
    List.forall₂_same.mpr fun lexeme _ => .same lexeme
  have replaces : List.Forall₂ (Selector.Lexeme.Replaces (Predicate.Mends 1))
      (front ++ .predicate "==" :: behind) (front ++ .predicate "true" :: behind) :=
    List.rel_append (same front) (.cons (.body mends) (same behind))
  have read : Selector.parse "b > [==],a" =
      .ok ⟨[⟨[.tag "b", .combinator .child, .predicate "=="]⟩, ⟨[.tag "a"]⟩]⟩ := by decide +kernel
  have answered : query "b > [==],a" [0] = .ok [0] := (answer_eq_gather read rfl [0]).trans rfl
  cases listed : Selector.Token.list "b > [==],a" with
  | error error =>
      rw [listed] at scanned
      cases scanned
  | ok tokens =>
      rw [listed] at scanned
      rw [← Except.ok.inj scanned] at replaces
      have bodies := malformed_bodies_fail_only_where_applied model model.hooks ⟨2, 1⟩
      have kept := bodies.2.1 "b > [==],a" tokens _ [0] [0] listed replaces answered
      have applied := bodies.2.2 "==" malformed (by decide +kernel) 0 [0]
      exact ⟨malformed, answered, kept, applied⟩

end NodeQuery
