import NodeQuery.Proofs.Query.Composition
import NodeQuery.Proofs.Query.Freshness
import NodeQuery.Proofs.Selector.Recognition

/-!
# Queries over commas and over roots

Two selector texts with a comma between them have the groups of both, and below one root they find
what each of them finds.  Below a row of roots, any text finds what it finds below the first of
them and below the others.  In either case the second answer is merged into the first: it adds the
nodes whose keys the first one lacks.
-/

namespace NodeQuery

/-! ## Merging -/

section

variable {α κ : Type} [BEq κ] (key : α → κ)

/-- One of the values has the key of the given one. -/
def sharesKey (values : List α) (value : α) : Bool :=
  values.any fun other => key other == key value

/-- The first values, and behind them, of each key that they lack, the first value that has it. -/
def merge (left right : List α) : List α :=
  left ++ firstOfEach key (right.filter fun value => !sharesKey key left value)

theorem firstOfEach_of_pairwise {values : List α}
    (distinct : values.Pairwise fun earlier later => (key earlier == key later) = false)
    [PartialEquivBEq κ] : firstOfEach key values = values := by
  induction values with
  | nil => rfl
  | cons value values ih =>
      rcases List.pairwise_cons.mp distinct with ⟨head, tail⟩
      have kept : values.filter (fun other => !(key other == key value)) = values := by
        apply List.filter_eq_self.mpr
        intro other member
        rw [BEq.comm, head other member]
        rfl
      rw [firstOfEach_cons, kept, ih tail]

/-- Values are left out by their keys before or after the later ones of each key are. -/
theorem filter_firstOfEach {p : α → Bool}
    (respects : ∀ value other, (key value == key other) = true → p value = p other)
    (values : List α) :
    (firstOfEach key values).filter p = firstOfEach key (values.filter p) := by
  induction values using firstOfEach_induction key with
  | nil => rfl
  | cons value values ih =>
      rw [firstOfEach_cons]
      by_cases kept : p value = true
      · rw [List.filter_cons_of_pos kept, List.filter_cons_of_pos kept, firstOfEach_cons, ih,
          List.filter_filter, List.filter_filter]
        simp only [Bool.and_comm]
      · rw [List.filter_cons_of_neg kept, List.filter_cons_of_neg kept, ih, List.filter_filter]
        congr 1
        apply List.filter_congr
        intro other _
        cases same : key other == key value with
        | false => simp
        | true => simp [respects other value same, kept]

variable [EquivBEq κ]

/-- Values of another key do not tell whether a key is there. -/
theorem sharesKey_filter {head value : α} (differs : (key value == key head) = false)
    (values : List α) :
    sharesKey key (values.filter fun other => !(key other == key head)) value =
      sharesKey key values value := by
  rw [sharesKey, sharesKey, List.any_filter]
  congr 1
  funext other
  cases same : key other == key value with
  | false => simp
  | true => simp [BEq.congr_left same, differs]

/-- Of a row, the first values of each key are those of its front and what they lack. -/
theorem firstOfEach_append (left right : List α) :
    firstOfEach key (left ++ right) =
      firstOfEach key left ++
        firstOfEach key (right.filter fun value => !sharesKey key left value) := by
  induction left using firstOfEach_induction key generalizing right with
  | nil => simp [firstOfEach, sharesKey]
  | cons head left ih =>
      -- What has the key of the head is left out by the head, the rest as before.
      have same : ((right.filter fun value => !(key value == key head)).filter fun value =>
            !sharesKey key (left.filter fun other => !(key other == key head)) value) =
          right.filter fun value => !sharesKey key (head :: left) value := by
        rw [List.filter_filter]
        apply List.filter_congr
        intro value _
        have shown : sharesKey key (head :: left) value =
            ((key head == key value) || sharesKey key left value) := List.any_cons
        rw [shown, BEq.comm (a := key head)]
        cases differs : key value == key head with
        | false => simp [sharesKey_filter key differs]
        | true => simp
      rw [List.cons_append, firstOfEach_cons, List.filter_append, ih, same, firstOfEach_cons,
        List.cons_append]

theorem sharesKey_firstOfEach (values : List α) (value : α) :
    sharesKey key (firstOfEach key values) value = sharesKey key values value := by
  rw [Bool.eq_iff_iff, sharesKey, sharesKey, List.any_eq_true, List.any_eq_true]
  constructor
  · rintro ⟨other, member, same⟩
    exact ⟨other, (firstOfEach_sublist key values).subset member, same⟩
  · rintro ⟨other, member, same⟩
    rcases exists_mem_firstOfEach key member with ⟨first, found, agrees⟩
    exact ⟨first, found, BEq.trans agrees same⟩

/-- The first values of a row are merged from those of its parts. -/
theorem firstOfEach_append_eq_merge (left right : List α) :
    firstOfEach key (left ++ right) =
      merge key (firstOfEach key left) (firstOfEach key right) := by
  have respects (value other : α) (same : (key value == key other) = true) :
      (!sharesKey key left value) = !sharesKey key left other := by
    simp only [sharesKey, BEq.congr_right same]
  simp only [merge, sharesKey_firstOfEach]
  rw [firstOfEach_append, filter_firstOfEach key respects,
    firstOfEach_of_pairwise key (pairwise_firstOfEach key _)]

end

/-! ## Items in a row -/

section

variable {Node Key : Type} [BEq Key] (key : Node → Key)

/-- The first error of some items, or else the first node of each key. -/
def gather (items : List (Item Node)) : Except Error (List Node) :=
  match Eager.firstError? items with
  | some error => .error error
  | none => .ok (firstOfEach key (items.filterMap Except.toOption))

/-- What is gathered of a row is what is gathered of its front and then of the rest. -/
theorem gather_append [EquivBEq Key] (front behind : List (Item Node)) :
    gather key (front ++ behind) = (do
      let first ← gather key front
      let second ← gather key behind
      .ok (merge key first second)) := by
  have error : Eager.firstError? (front ++ behind) =
      (Eager.firstError? front).or (Eager.firstError? behind) := List.findSome?_append
  simp only [gather, error, List.filterMap_append, firstOfEach_append_eq_merge]
  cases Eager.firstError? front with
  | some error => rfl
  | none => cases Eager.firstError? behind <;> rfl

end

section

variable {Node Key : Type} (model : NodeModel Node Key) (context : Context Node)

theorem allItems_append_roots (plan : List (List (Stage Node))) (roots others : List Node) :
    allItems model context plan (roots ++ others) =
      allItems model context plan roots ++ allItems model context plan others :=
  List.flatMap_append

/-- Below one root, the items of the groups follow each other as the groups do. -/
theorem allItems_append_groups (plan further : List (List (Stage Node))) (root : Node) :
    allItems model context (plan ++ further) [root] =
      allItems model context plan [root] ++ allItems model context further [root] := by
  simp [allItems]

end

/-! ## Texts with a comma between them -/

namespace Selector

theorem Cuts.append_comma {left right : List Char} {lexemes others : List Lexeme}
    (cuts : Cuts left lexemes) (otherCuts : Cuts right others) :
    Cuts (left ++ ',' :: right) (lexemes ++ .comma :: others) where
  wellFormed := List.forall_mem_append.mpr
    ⟨cuts.wellFormed, List.forall_mem_cons.mpr ⟨trivial, otherCuts.wellFormed⟩⟩
  apart := by
    have behind : (.comma :: others).IsChain Lexeme.Apart := by
      apply List.isChain_cons.mpr
      refine ⟨?_, otherCuts.apart⟩
      intro next _
      cases next <;> trivial
    apply cuts.apart.append behind
    rintro last _ _ ⟨⟩
    cases last <;> trivial
  text := by
    rw [← cuts.text, ← otherCuts.text]
    simp [Lexeme.rowText, Lexeme.text]

theorem Grammar.Alternatives.append {left right : List Lexeme} {groups others : List Group}
    (alternatives : Alternatives left groups) (further : Alternatives right others) :
    Alternatives (left ++ .comma :: right) (groups ++ others) := by
  induction further with
  | one alternative => exact .more alternatives alternative
  | more before alternative ih =>
      rw [← List.cons_append, ← List.append_assoc, ← List.append_assoc]
      exact .more ih alternative

/-- A text of a selector with groups consists of alternatives. -/
theorem alternatives_of_parse {source : String} {selector : Selector}
    (read : parse source = .ok selector) (nonempty : selector.groups ≠ []) :
    ∃ lexemes, Cuts source.toList lexemes ∧ Grammar.Alternatives lexemes selector.groups := by
  rcases parse_eq_ok_iff_cuts.mp read with ⟨lexemes, cuts, accepts⟩
  refine ⟨lexemes, cuts, ?_⟩
  cases (accepts_iff_derives cuts.apart).mp accepts with
  | empty padding => exact absurd rfl nonempty
  | groups alternatives => exact alternatives

/-- Two texts with a comma between them have the groups of both. -/
theorem parse_append_comma {left right : String} {first second : Selector}
    (readLeft : parse left = .ok first) (readRight : parse right = .ok second)
    (nonempty : first.groups ≠ []) (otherNonempty : second.groups ≠ []) :
    parse (left ++ "," ++ right) = .ok ⟨first.groups ++ second.groups⟩ := by
  rcases alternatives_of_parse readLeft nonempty with ⟨lexemes, cuts, alternatives⟩
  rcases alternatives_of_parse readRight otherNonempty with ⟨others, otherCuts, further⟩
  refine parse_eq_ok_iff_cuts.mpr ⟨lexemes ++ .comma :: others, ?_, ?_⟩
  · simpa using cuts.append_comma otherCuts
  · exact (Grammar.Derives.groups (alternatives.append further)).accepts

end Selector

/-! ## Answers -/

section

variable {Node Key : Type} [BEq Key] [Hashable Key]
variable (model : NodeModel Node Key) (provider : Provider Node) (registry : Registry Node)
variable (limits : Limits)

/-- What a text finds at and below the roots. -/
def answer (source : String) (roots : List Node) : Except Error (List Node) := do
  let program ← (Program.compile source limits.predicateNesting).mapError Error.selector
  program.run model provider registry limits roots

/-- This is what an engine answers. -/
theorem query_new_eq_answer (binding : Binding Node) (capacity : Nat) (source : String)
    (roots : List Node) :
    ((Engine.new binding registry limits capacity).query model source roots).1 =
      answer model (binding.provider model) registry limits source roots := by
  have sound : (Engine.new binding registry limits capacity).cache.Sound :=
    Cache.sound_new capacity limits.predicateNesting
  rw [Engine.query_of_sound model sound rfl, Engine.answerAnew, answer]
  cases compiled : Program.compile source limits.predicateNesting with
  | error error => simp only [Engine.new, compiled]; rfl
  | ok program => simp only [Engine.new, compiled]; rfl

theorem answer_of_parse {source : String} {selector : Selector}
    (read : Selector.parse source = .ok selector) (roots : List Node) :
    answer model provider registry limits source roots =
      (Program.ofSelector source selector limits.predicateNesting).run model provider registry
        limits roots := by
  rw [answer, Program.compile, read]
  rfl

omit [BEq Key] [Hashable Key] in
/-- The names of all groups resolve if those of the first and those of the other groups do. -/
theorem resolve_append_groups (source left right : String) (groups others : List Group)
    (nesting : Nat) :
    (Program.ofSelector source ⟨groups ++ others⟩ nesting).resolve registry = (do
      let plan ← (Program.ofSelector left ⟨groups⟩ nesting).resolve registry
      let further ← (Program.ofSelector right ⟨others⟩ nesting).resolve registry
      .ok (plan ++ further)) := by
  simp only [Program.resolve, Program.ofSelector, List.map_append, List.mapM_append]
  rfl

variable [EquivBEq Key] [LawfulHashable Key]
variable {model provider registry limits}

theorem run_eq_gather {program : Program} {plan : List (List (Stage Node))}
    (resolved : program.resolve registry = .ok plan) (roots : List Node) :
    program.run model provider registry limits roots =
      gather model.key (allItems model ⟨provider, limits⟩ plan roots) :=
  run_of_resolved resolved limits roots

theorem answer_eq_gather {source : String} {selector : Selector} {plan : List (List (Stage Node))}
    (read : Selector.parse source = .ok selector)
    (resolved : (Program.ofSelector source selector limits.predicateNesting).resolve registry =
      .ok plan)
    (roots : List Node) :
    answer model provider registry limits source roots =
      gather model.key (allItems model ⟨provider, limits⟩ plan roots) := by
  rw [answer_of_parse _ _ _ _ read, run_eq_gather resolved]

/-- A query has an answer if all names resolve and no item is an error. -/
theorem run_eq_ok_iff {program : Program} {roots found : List Node} :
    program.run model provider registry limits roots = .ok found ↔
      ∃ plan, program.resolve registry = .ok plan ∧
        gather model.key (allItems model ⟨provider, limits⟩ plan roots) = .ok found := by
  cases resolved : program.resolve registry with
  | error error => simp [Program.run, resolved, Except.mapError, bind, Except.bind]
  | ok plan => simp [run_eq_gather resolved]

/-- Below a row of roots, a program finds what it finds below the first ones and then below the
others. -/
theorem run_append_roots (program : Program) (roots others : List Node) :
    program.run model provider registry limits (roots ++ others) = (do
      let first ← program.run model provider registry limits roots
      let second ← program.run model provider registry limits others
      .ok (merge model.key first second)) := by
  cases resolved : program.resolve registry with
  | error error => simp [Program.run, resolved, Except.mapError, bind, Except.bind]
  | ok plan =>
      simp only [run_eq_gather resolved]
      rw [allItems_append_roots, gather_append]

/-- Below one root, the groups of two selectors find what the one and the other find.  Nothing is
said of errors: the names of all groups are resolved first, so the error may not be the one that the
first groups run into. -/
theorem run_append_groups (source left right : String) (groups others : List Group)
    (nesting : Nat) (root : Node) (found : List Node) :
    (Program.ofSelector source ⟨groups ++ others⟩ nesting).run model provider registry limits
        [root] = .ok found ↔
      ∃ first second,
        (Program.ofSelector left ⟨groups⟩ nesting).run model provider registry limits [root] =
          .ok first ∧
        (Program.ofSelector right ⟨others⟩ nesting).run model provider registry limits [root] =
          .ok second ∧
        found = merge model.key first second := by
  simp only [run_eq_ok_iff]
  constructor
  · rintro ⟨whole, resolved, gathered⟩
    rw [resolve_append_groups registry source left right] at resolved
    rcases bind_eq_ok.mp resolved with ⟨plan, resolvedLeft, resolved⟩
    rcases bind_eq_ok.mp resolved with ⟨further, resolvedRight, appended⟩
    cases appended
    rw [allItems_append_groups, gather_append] at gathered
    rcases bind_eq_ok.mp gathered with ⟨first, gatheredLeft, gathered⟩
    rcases bind_eq_ok.mp gathered with ⟨second, gatheredRight, merged⟩
    cases merged
    exact ⟨first, second, ⟨plan, resolvedLeft, gatheredLeft⟩,
      ⟨further, resolvedRight, gatheredRight⟩, rfl⟩
  · rintro ⟨first, second, ⟨plan, resolvedLeft, gatheredLeft⟩,
      ⟨further, resolvedRight, gatheredRight⟩, rfl⟩
    refine ⟨plan ++ further, ?_, ?_⟩
    · rw [resolve_append_groups registry source left right, resolvedLeft, resolvedRight]
      rfl
    · rw [allItems_append_groups, gather_append, gatheredLeft, gatheredRight]
      rfl

end

/-- Two texts of selectors with groups, with a comma between them, are a text of the groups of
both.  Below one root it has an answer if and only if both of them have, and then the second of
these is merged into the first.  Below a row of roots, every text has the error that it has below
the first ones, or else the one that it has below the others, or else the second of both answers
merged into the first. -/
theorem queries_merge_over_commas_and_roots {Node Key : Type} [BEq Key] [Hashable Key]
    [EquivBEq Key] [LawfulHashable Key] (model : NodeModel Node Key) (provider : Provider Node)
    (registry : Registry Node) (limits : Limits) :
    let query := answer model provider registry limits
    (∀ (left right : String) (first second : Selector),
      Selector.parse left = .ok first → first.groups ≠ [] →
      Selector.parse right = .ok second → second.groups ≠ [] →
      Selector.parse (left ++ "," ++ right) = .ok ⟨first.groups ++ second.groups⟩ ∧
        ∀ root found, query (left ++ "," ++ right) [root] = .ok found ↔
          ∃ front behind, query left [root] = .ok front ∧ query right [root] = .ok behind ∧
            found = merge model.key front behind) ∧
    ∀ source roots others, query source (roots ++ others) = (do
      let front ← query source roots
      let behind ← query source others
      .ok (merge model.key front behind)) := by
  intro query
  constructor
  · intro left right first second readLeft nonempty readRight otherNonempty
    have read := Selector.parse_append_comma readLeft readRight nonempty otherNonempty
    refine ⟨read, ?_⟩
    intro root found
    simp only [query, answer_of_parse model provider registry limits readLeft,
      answer_of_parse model provider registry limits readRight,
      answer_of_parse model provider registry limits read]
    exact run_append_groups _ _ _ _ _ _ root found
  · intro source roots others
    simp only [query, answer]
    cases Program.compile source limits.predicateNesting with
    | error error => rfl
    | ok program => exact run_append_roots program roots others

/-- Numbers count as the same if they differ by a multiple of three: the second text also finds the
nodes 2 and 4, but the first one has found nodes of their keys, as both texts have for the node 8
below the other root. -/
theorem queries_merge_over_commas_and_roots_of_residues :
    let model : NodeModel Nat Nat := {
      key := fun node => node % 3
      tag := fun node => if node % 2 = 0 then some "even" else none
      children := fun
        | 0 => some [1, 2, 4]
        | _ => none }
    let query := answer model model.hooks Registry.builtin ⟨2, 1⟩
    query "* > *" [0] = .ok [1, 2] ∧ query "even" [0] = .ok [0, 2, 4] ∧
      Selector.parse "* > *,even" =
        .ok ⟨[⟨[.any, .combinator .child, .any]⟩, ⟨[.tag "even"]⟩]⟩ ∧
      query "* > *,even" [0] = .ok [1, 2, 0] ∧ query "* > *,even" [8] = .ok [8] ∧
      query "* > *,even" ([0] ++ [8]) = .ok [1, 2, 0] := by
  intro model query
  have composed := queries_merge_over_commas_and_roots model model.hooks Registry.builtin ⟨2, 1⟩
  have readLeft : Selector.parse "* > *" = .ok ⟨[⟨[.any, .combinator .child, .any]⟩]⟩ := by
    decide +kernel
  have readRight : Selector.parse "even" = .ok ⟨[⟨[.tag "even"]⟩]⟩ := by decide +kernel
  have left : query "* > *" [0] = .ok [1, 2] := (answer_eq_gather readLeft rfl [0]).trans rfl
  have right : query "even" [0] = .ok [0, 2, 4] := (answer_eq_gather readRight rfl [0]).trans rfl
  rcases composed.1 _ _ _ _ readLeft nofun readRight nofun with ⟨read, overComma⟩
  have other : query "* > *,even" [8] = .ok [8] := (answer_eq_gather read rfl [8]).trans rfl
  have both : query "* > *,even" [0] = .ok [1, 2, 0] :=
    (overComma 0 [1, 2, 0]).mpr ⟨[1, 2], [0, 2, 4], left, right, rfl⟩
  refine ⟨left, right, read, both, other, ?_⟩
  calc query "* > *,even" ([0] ++ [8])
    _ = (do
          let front ← query "* > *,even" [0]
          let behind ← query "* > *,even" [8]
          .ok (merge model.key front behind)) := composed.2 _ _ _
    _ = .ok (merge model.key [1, 2, 0] [8]) := by rw [both, other]; rfl
    _ = .ok [1, 2, 0] := rfl

end NodeQuery
