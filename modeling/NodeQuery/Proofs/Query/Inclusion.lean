import NodeQuery.Proofs.Query.Recency

/-!
# Caches of different capacities

Two caches of different capacities are asked the same.  Soon they differ in what they hold and in
what they answer, so that one of them moves a text to the end while the other compiles it or does
nothing.  All the same, what the smaller one keeps is a part of what the larger one keeps, in the
same order.  The invariant also says that the smaller one is full as soon as the two differ: it then
loses its oldest text if the larger one does.
-/

namespace NodeQuery

/-! ## Rows of different lengths -/

section

variable {α : Type} {values others : List α}

/-- A part of a row stays a part of it if no fewer values are cut off the part. -/
theorem rtake_sublist_rtake (part : values.Sublist others) {count other : Nat}
    (cut : others.length - other ≤ values.length - count) :
    (values.rtake count).Sublist (others.rtake other) :=
  (List.drop_sublist_drop_left values cut).trans (part.drop _)

variable [DecidableEq α]

/-- A part of a row without repetitions is what the row has of the values of the part. -/
theorem filter_mem_of_sublist (part : values.Sublist others) (nodup : others.Nodup) :
    others.filter (· ∈ values) = values := by
  have parted : values.Sublist (others.filter (· ∈ values)) := by
    have kept : values.filter (· ∈ values) = values := by simp
    rw [← kept]
    simpa using part.filter (· ∈ values)
  have permuted : values.Perm (others.filter (· ∈ values)) := by
    rw [List.perm_ext_iff_of_nodup (nodup.sublist part) (nodup.filter _)]
    intro value
    simpa using fun member => part.subset member
  exact (parted.eq_of_length permuted.length_eq).symm

/-- A value that is moved to the end of a row makes it longer only if it is new. -/
theorem length_moved (nodup : values.Nodup) (value : α) :
    (values.filter (· != value) ++ [value]).length =
      if value ∈ values then values.length else values.length + 1 := by
  rw [List.length_append, ← nodup.erase_eq_filter, List.length_erase, List.length_singleton]
  split
  case isTrue member =>
      have := List.length_pos_of_mem member
      omega
  case isFalse => rfl

end

namespace Cache

/-! ## What a request does to the texts -/

/-- The kept texts, the least recently used first. -/
def texts (cache : Cache) : List String := cache.entries.map Prod.fst

/-- The texts that are kept after a use of the given one. -/
def touched (cache : Cache) (text : String) : List String :=
  (cache.texts.filter (· != text) ++ [text]).rtake cache.capacity

/-- The text whose program is asked for. -/
def Request.text? : Request → Option String
  | .getOrCompile text | .get text => some text
  | .contains _ | .size | .isEmpty | .clear => none

/-- A program is asked for that can be compiled if it is not kept. -/
def Request.Compiles (nesting : Nat) : Request → Prop
  | .getOrCompile text => ∃ program, Program.compile text nesting = .ok program
  | .get _ | .contains _ | .size | .isEmpty | .clear => False

section

variable {cache : Cache} {request : Request} {text : String}

theorem mem_texts_iff :
    text ∈ cache.texts ↔ ∃ shared, cache.entries.lookup text = some shared := by
  constructor
  · intro member
    rcases List.mem_map.mp member with ⟨⟨text, shared⟩, entry, rfl⟩
    cases found : cache.entries.lookup text with
    | some shared => exact ⟨shared, rfl⟩
    | none => simpa using List.lookup_eq_none_iff.mp found _ entry
  · rintro ⟨shared, found⟩
    exact List.mem_map.mpr ⟨(text, shared), mem_of_lookup found, rfl⟩

theorem contains_iff : cache.contains text = true ↔ text ∈ cache.texts := by
  rw [mem_texts_iff, contains, Option.isSome_iff_exists]

theorem event_of_kept {shared : SharedProgram} (asked : request.text? = some text)
    (found : cache.entries.lookup text = some shared) :
    cache.event request = .hit text shared := by
  cases request with
  | getOrCompile other =>
      cases asked
      simp only [event, contains, getOrCompile_of_kept found, found]
      rfl
  | get other =>
      cases asked
      simp only [event, get?_of_kept found]
  | _ => cases asked

/-- A program that is kept or can be compiled is given out. -/
theorem use?_of_given (asked : request.text? = some text)
    (given : text ∈ cache.texts ∨ request.Compiles cache.predicateNesting) :
    (cache.event request).use? = some text := by
  cases found : cache.entries.lookup text with
  | some shared =>
      rw [event_of_kept asked found]
      rfl
  | none =>
      have absent : text ∉ cache.texts := by simp [mem_texts_iff, found]
      have compiles := given.resolve_left absent
      cases request with
      | getOrCompile other =>
          cases asked
          rcases compiles with ⟨program, compiled⟩
          simp only [event, contains, getOrCompile_of_compiled found compiled, found]
          rfl
      | _ => exact compiles.elim

theorem event_of_refused (asked : request.text? = some text) (absent : text ∉ cache.texts)
    (refused : ¬request.Compiles cache.predicateNesting) : cache.event request = .nothing := by
  have missing : cache.entries.lookup text = none := by
    rw [mem_texts_iff, not_exists] at absent
    exact Option.eq_none_iff_forall_ne_some.mpr absent
  cases request with
  | getOrCompile other =>
      cases asked
      cases compiled : Program.compile text cache.predicateNesting with
      | error error => simp only [event, getOrCompile_of_rejected missing compiled]
      | ok program => exact absurd ⟨program, compiled⟩ refused
  | get other =>
      cases asked
      simp only [event, get?_of_absent missing]
  | _ => cases asked

theorem event_of_unasked (unasked : request.text? = none) (kept : request ≠ .clear) :
    cache.event request = .nothing := by
  cases request with
  | getOrCompile text | get text => cases unasked
  | contains _ | size | isEmpty => rfl
  | clear => exact absurd rfl kept

theorem next_of_nothing (quiet : cache.event request = .nothing) : cache.next request = cache := by
  have does := cache.does request
  rw [quiet] at does
  exact does.eq_of_nothing

theorem text?_of_use (use : (cache.event request).use? = some text) :
    request.text? = some text := by
  cases request with
  | getOrCompile other =>
      simp only [event] at use
      split at use
      · split at use <;> exact use
      · cases use
  | get other =>
      simp only [event] at use
      split at use
      · exact use
      · cases use
  | _ => cases use

theorem Does.lookup_of_hit {next : Cache} {shared : SharedProgram}
    (does : cache.Does (.hit text shared) next) : cache.entries.lookup text = some shared := by
  cases does with
  | hit found => exact found

end

section

variable {cache next : Cache} {events : List Event} {event : Event} {text : String}

theorem Follows.distinct (follows : cache.Follows events) : cache.texts.Nodup := by
  rw [Cache.texts, follows.texts]
  exact (recency_nodup events).sublist (List.drop_sublist _ _)

theorem Follows.bounded (follows : cache.Follows events) :
    cache.texts.length ≤ cache.capacity := by
  rw [Cache.texts, follows.texts]
  exact length_rtake_le _ _

theorem Does.texts_eq_touched (does : cache.Does event next) (follows : cache.Follows events)
    (use : event.use? = some text) : next.texts = cache.touched text := by
  rw [Cache.texts, does.texts follows.texts, recency_of_use use, does.settings.1,
    ← rtake_moved (recency_nodup events), ← follows.texts]
  rfl

end

/-! ## A smaller and a larger cache -/

/-- The texts are a part of the others, and all of them as long as there is room. -/
structure Fills (capacity : Nat) (texts others : List String) : Prop where
  part : texts.Sublist others
  full : texts.length = min capacity others.length

theorem fills_nil (capacity : Nat) : Fills capacity [] [] where
  part := .refl _
  full := (Nat.min_zero _).symm

/-- What the smaller cache keeps is what it has room for of what the larger one keeps. -/
structure Nested (small large : Cache) : Prop where
  limits : small.predicateNesting = large.predicateNesting
  roomier : small.capacity ≤ large.capacity
  fills : Fills small.capacity small.texts large.texts

theorem nested_new {capacity larger : Nat} (roomier : capacity ≤ larger) (nesting : Nat) :
    Nested (new capacity nesting) (new larger nesting) where
  limits := rfl
  roomier := roomier
  fills := fills_nil capacity

namespace Nested

variable {small large : Cache} {events others : List Event} {text : String}

/-- Both caches use a text, whether or not they have it. -/
theorem fills_touched (nested : Nested small large) (follows : small.Follows events)
    (othersFollow : large.Follows others) (text : String) :
    Fills small.capacity (small.touched text) (large.touched text) := by
  rcases nested with ⟨-, roomier, part, full⟩
  have moved : (small.texts.filter (· != text) ++ [text]).Sublist
      (large.texts.filter (· != text) ++ [text]) := (part.filter _).append (.refl _)
  have length := length_moved follows.distinct text
  have otherLength := length_moved othersFollow.distinct text
  have bounded := othersFollow.bounded
  -- The larger cache loses its oldest text only if it is full, and then the smaller one is too.
  have lengths : (large.texts.filter (· != text) ++ [text]).length - large.capacity ≤
        (small.texts.filter (· != text) ++ [text]).length - small.capacity ∧
      min small.capacity (small.texts.filter (· != text) ++ [text]).length =
        min small.capacity
          (min large.capacity (large.texts.filter (· != text) ++ [text]).length) := by
    by_cases own : text ∈ small.texts
    · rw [if_pos own] at length
      rw [if_pos (part.subset own)] at otherLength
      omega
    · rw [if_neg own] at length
      by_cases member : text ∈ large.texts
      · rw [if_pos member] at otherLength
        have shorter : small.texts.length < large.texts.length := by
          refine lt_of_le_of_ne part.length_le fun same => own ?_
          rwa [part.eq_of_length same]
        omega
      · rw [if_neg member] at otherLength
        omega
  constructor
  · exact rtake_sublist_rtake moved lengths.1
  · rw [Cache.touched, Cache.touched, length_rtake, length_rtake, lengths.2]

/-- Only the larger cache has the text, and only there it is used. -/
theorem fills_touched_larger (nested : Nested small large) (othersFollow : large.Follows others)
    (absent : text ∉ small.texts) (member : text ∈ large.texts) :
    Fills small.capacity small.texts (large.touched text) := by
  have length := length_moved othersFollow.distinct text
  rw [if_pos member] at length
  have whole : large.touched text = large.texts.filter (· != text) ++ [text] :=
    rtake_of_length_le (length ▸ othersFollow.bounded)
  have untouched : small.texts.filter (· != text) = small.texts := by
    rw [List.filter_eq_self]
    intro other found
    simpa using ne_of_mem_of_not_mem found absent
  rw [whole]
  constructor
  · rw [← untouched]
    exact (nested.fills.part.filter _).trans (List.sublist_append_left _ _)
  · rw [length]
    exact nested.fills.full

/-- What is asked of both caches keeps them nested. -/
theorem next (nested : Nested small large) (follows : small.Follows events)
    (othersFollow : large.Follows others) (request : Request) :
    Nested (small.next request) (large.next request) := by
  have settings := (small.does request).settings
  have otherSettings := (large.does request).settings
  -- Capacities and limits stay, so that only the texts are left.
  suffices fills : Fills small.capacity (small.next request).texts (large.next request).texts by
    constructor
    · exact settings.2.trans (nested.limits.trans otherSettings.2.symm)
    · exact settings.1.trans_le (nested.roomier.trans_eq otherSettings.1.symm)
    · rwa [settings.1]
  cases asked : request.text? with
  | none =>
      by_cases cleared : request = .clear
      · subst cleared
        exact fills_nil small.capacity
      · rw [next_of_nothing (event_of_unasked asked cleared),
          next_of_nothing (event_of_unasked asked cleared)]
        exact nested.fills
  | some text =>
      by_cases given : text ∈ large.texts ∨ request.Compiles large.predicateNesting
      · rw [(large.does request).texts_eq_touched othersFollow (use?_of_given asked given)]
        by_cases own : text ∈ small.texts ∨ request.Compiles small.predicateNesting
        · rw [(small.does request).texts_eq_touched follows (use?_of_given asked own)]
          exact nested.fills_touched follows othersFollow text
        · rw [not_or] at own
          have refused : ¬request.Compiles large.predicateNesting := nested.limits ▸ own.2
          rw [next_of_nothing (event_of_refused asked own.1 own.2)]
          exact nested.fills_touched_larger othersFollow own.1 (given.resolve_right refused)
      · rw [not_or] at given
        have absent : text ∉ small.texts := fun member =>
          given.1 (nested.fills.part.subset member)
        have refused : ¬request.Compiles small.predicateNesting := nested.limits ▸ given.2
        rw [next_of_nothing (event_of_refused asked given.1 given.2),
          next_of_nothing (event_of_refused asked absent refused)]
        exact nested.fills

end Nested

theorem nested_after {capacity larger : Nat} (roomier : capacity ≤ larger) (nesting : Nat)
    (history : List Request) :
    Nested ((new capacity nesting).after history) ((new larger nesting).after history) := by
  -- A history grows at its end, where both caches take one more step.
  induction history using List.reverseRecOn with
  | nil => exact nested_new roomier nesting
  | append_singleton history request ih =>
      rw [after_append_singleton, after_append_singleton]
      exact ih.next (follows_after _ _ history) (follows_after _ _ history) request

/-- Two caches of which the second has no less capacity are asked the same.  The second keeps all
texts that the first keeps, in the same order among each other, and it has the program of a text
whenever the first has it. -/
theorem larger_cache_keeps_hits {capacity larger : Nat} (roomier : capacity ≤ larger)
    (nesting : Nat) (history : List Request) :
    let small := (new capacity nesting).after history
    let large := (new larger nesting).after history
    (∀ text, small.contains text = true → large.contains text = true) ∧
      large.texts.filter small.contains = small.texts ∧
      ∀ request text shared, small.event request = .hit text shared →
        ∃ other, large.event request = .hit text other := by
  intro small large
  have nested : Nested small large := nested_after roomier nesting history
  have distinct : large.texts.Nodup := (follows_after larger nesting history).distinct
  refine ⟨?_, ?_, ?_⟩
  · intro text kept
    rw [contains_iff] at kept ⊢
    exact nested.fills.part.subset kept
  · have same : small.contains = fun text => decide (text ∈ small.texts) := by
      funext text
      rw [Bool.eq_iff_iff, contains_iff, decide_eq_true_iff]
    rw [same, filter_mem_of_sublist nested.fills.part distinct]
  · intro request text shared hit
    have does := small.does request
    rw [hit] at does
    have member : text ∈ small.texts := mem_texts_iff.mpr ⟨shared, does.lookup_of_hit⟩
    obtain ⟨other, found⟩ := mem_texts_iff.mp (nested.fills.part.subset member)
    have asked : request.text? = some text := text?_of_use (by rw [hit]; rfl)
    exact ⟨other, event_of_kept asked found⟩

/-- The request for `a` finds it in the larger cache alone and moves it to the end there, so that
`b` is dropped for `d`. -/
theorem larger_cache_keeps_hits_of_drifted :
    let history : List Request :=
      [.getOrCompile "a", .getOrCompile "b", .getOrCompile "c", .get "a", .getOrCompile "d"]
    let small := (new 2 64).after history
    let large := (new 3 64).after history
    2 ≤ 3 ∧ small.texts = ["c", "d"] ∧ large.texts = ["c", "a", "d"] ∧
      large.texts.filter small.contains = ["c", "d"] ∧
      ∃ shared other, small.event (.get "c") = .hit "c" shared ∧
        large.event (.get "c") = .hit "c" other := by
  intro history small large
  have texts : small.texts = ["c", "d"] := by decide +kernel
  have largeTexts : large.texts = ["c", "a", "d"] := by decide +kernel
  have member : "c" ∈ small.texts := by simp [texts]
  obtain ⟨shared, found⟩ := mem_texts_iff.mp member
  have hit : small.event (.get "c") = .hit "c" shared := event_of_kept rfl found
  obtain ⟨-, order, hits⟩ :=
    larger_cache_keeps_hits (show 2 ≤ 3 by decide) 64 history
  obtain ⟨other, largeHit⟩ := hits _ _ _ hit
  exact ⟨by decide, texts, largeTexts, order.trans texts, shared, other, hit, largeHit⟩

end Cache

end NodeQuery
