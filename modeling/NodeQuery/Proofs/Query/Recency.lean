import NodeQuery.Proofs.Query.CacheHistory
import Mathlib.Data.List.Dedup
import Mathlib.Data.List.DropRight

/-!
# Least recently used

A cache of some capacity keeps that many texts at most, and they are the ones used last.  The texts
are ordered here by looking at the events alone; that a cache agrees with this order is an invariant
of its histories.
-/

namespace NodeQuery

/-! ## Moving a text to the end -/

section

variable {α : Type}

theorem length_rtake (values : List α) (count : Nat) :
    (values.rtake count).length = min count values.length := by
  rw [List.rtake, List.length_drop]
  omega

theorem length_rtake_le (values : List α) (count : Nat) : (values.rtake count).length ≤ count := by
  rw [length_rtake]
  exact Nat.min_le_left _ _

theorem rtake_of_length_le {values : List α} {count : Nat} (bound : values.length ≤ count) :
    values.rtake count = values := by
  rw [List.rtake, Nat.sub_eq_zero_of_le bound, List.drop_zero]

theorem map_rtake {β : Type} (f : α → β) (values : List α) (count : Nat) :
    (values.rtake count).map f = (values.map f).rtake count := by
  rw [List.rtake, List.rtake, List.map_drop, List.length_map]

variable [DecidableEq α]

theorem dedup_append_singleton (values : List α) (value : α) :
    (values ++ [value]).dedup = values.dedup.filter (· != value) ++ [value] := by
  induction values with
  | nil => simp
  | cons first values ih =>
      rw [List.cons_append, List.dedup_cons, List.dedup_cons, ih]
      by_cases known : first ∈ values
      · simp [known]
      · by_cases same : first = value
        · subst same
          simp [known]
        · simp [known, same]

/-- A value may be removed before or behind the cut, if the cut leaves one more value. -/
theorem rtake_filter_rtake {values : List α} (nodup : values.Nodup) (value : α) (count : Nat) :
    ((values.rtake (count + 1)).filter (· != value)).rtake count =
      (values.filter (· != value)).rtake count := by
  -- The last value is the one that both sides keep first, so the induction starts there.
  induction values using List.reverseRecOn generalizing count with
  | nil => simp
  | append_singleton values last ih =>
      have distinct := List.nodup_append.mp nodup
      rw [List.rtake_concat_succ, List.filter_append, List.filter_append]
      by_cases same : last = value
      · have absent : value ∉ values := by
          intro member
          exact distinct.2.2 value member last (List.mem_singleton.mpr rfl) same.symm
        have whole : values.filter (· != value) = values := by
          rw [List.filter_eq_self]
          intro other member
          simpa using ne_of_mem_of_not_mem member absent
        have part : (values.rtake count).filter (· != value) = values.rtake count := by
          rw [List.filter_eq_self] at whole ⊢
          exact fun other member => whole other (List.mem_of_mem_drop member)
        have removed : [last].filter (· != value) = [] := by simp [same]
        rw [removed, List.append_nil, List.append_nil, part, whole,
          rtake_of_length_le (length_rtake_le values count)]
      · cases count with
        | zero => simp
        | succ count => simp [same, ih distinct.1]

/-- Moving a value to the end commutes with keeping the last values. -/
theorem rtake_moved {values : List α} (nodup : values.Nodup) (value : α) (count : Nat) :
    ((values.rtake count).filter (· != value) ++ [value]).rtake count =
      (values.filter (· != value) ++ [value]).rtake count := by
  cases count with
  | zero => simp
  | succ count => rw [List.rtake_concat_succ, List.rtake_concat_succ, rtake_filter_rtake nodup]

end

namespace Cache

/-! ## What events tell -/

def Event.clears : Event → Bool
  | .cleared => true
  | .hit _ _ | .built _ _ | .nothing => false

/-- The text whose program has been given out. -/
def Event.use? : Event → Option String
  | .hit text _ | .built text _ => some text
  | .cleared | .nothing => none

/-- The texts used since all was forgotten, each once, in the order of their last uses. -/
def recency (events : List Event) : List String :=
  ((events.rtakeWhile fun event => !event.clears).filterMap Event.use?).dedup

/-- The program that a text was compiled to the last time. -/
def latestBuild? (text : String) (events : List Event) : Option SharedProgram :=
  events.reverse.findSome? (Event.built? text)

/-- The serial number of a new program. -/
def Event.serial? : Event → Option Nat
  | .built _ shared => some shared.serial
  | .hit _ _ | .cleared | .nothing => none

/-- The serial numbers of all compilations. -/
def serials (events : List Event) : List Nat := events.filterMap Event.serial?

theorem recency_nodup (events : List Event) : (recency events).Nodup := List.nodup_dedup _

theorem recency_of_use {event : Event} {text : String} (use : event.use? = some text)
    (events : List Event) :
    recency (events ++ [event]) = (recency events).filter (· != text) ++ [text] := by
  have kept : event.clears = false := by
    cases event with
    | cleared => cases use
    | _ => rfl
  have gathered : [event].filterMap Event.use? = [text] := by simp [use]
  rw [recency, List.rtakeWhile_concat_pos _ _ _ (by simp [kept]), List.filterMap_append, gathered,
    dedup_append_singleton]
  rfl

theorem recency_cleared (events : List Event) : recency (events ++ [.cleared]) = [] := by
  rw [recency, List.rtakeWhile_concat_neg _ _ _ (by simp [Event.clears])]
  rfl

theorem recency_nothing (events : List Event) :
    recency (events ++ [.nothing]) = recency events := by
  rw [recency, List.rtakeWhile_concat_pos _ _ _ (by simp [Event.clears]), List.filterMap_append,
    List.filterMap_cons_none rfl, List.filterMap_nil, List.append_nil]
  rfl

theorem latestBuild?_append (text : String) (events behind : List Event) :
    latestBuild? text (events ++ behind) =
      (latestBuild? text behind).or (latestBuild? text events) := by
  rw [latestBuild?, List.reverse_append, List.findSome?_append]
  rfl

theorem latestBuild?_append_singleton (text : String) (events : List Event) (event : Event) :
    latestBuild? text (events ++ [event]) =
      (event.built? text).or (latestBuild? text events) := by
  rw [latestBuild?_append]
  cases event <;> simp [latestBuild?]

theorem serials_of_some {event : Event} {serial : Nat} (numbered : event.serial? = some serial)
    (events : List Event) : serials (events ++ [event]) = serials events ++ [serial] := by
  rw [serials, List.filterMap_append, List.filterMap_cons_some numbered]
  rfl

theorem serials_of_none {event : Event} (unnumbered : event.serial? = none)
    (events : List Event) : serials (events ++ [event]) = serials events := by
  rw [serials, List.filterMap_append, List.filterMap_cons_none unnumbered]
  exact List.append_nil _

/-! ## A cache follows its events -/

/-- What a cache holds and what it gave out agree with what the events tell. -/
structure Follows (cache : Cache) (events : List Event) : Prop where
  texts : cache.entries.map Prod.fst = (recency events).rtake cache.capacity
  programs : ∀ text shared, (text, shared) ∈ cache.entries →
    latestBuild? text events = some shared
  hits : ∀ before text shared behind, events = before ++ .hit text shared :: behind →
    latestBuild? text before = some shared
  ordered : (serials events).Pairwise (· < ·)
  counted : ∀ serial ∈ serials events, serial < cache.nextSerial

theorem follows_new (capacity nesting : Nat) : (new capacity nesting).Follows [] where
  texts := by simp [new, recency]
  programs := by simp [new]
  hits := by simp
  ordered := .nil
  counted := by simp [serials]

section

variable {cache next : Cache} {events : List Event} {event : Event} {text : String}
variable {shared : SharedProgram}

theorem map_without (cache : Cache) (text : String) :
    (cache.without text).map Prod.fst = (cache.entries.map Prod.fst).filter (· != text) := by
  rw [List.filter_map]
  rfl

/-- A use moves a kept text to the end, which cuts off none. -/
theorem texts_used (texts : cache.entries.map Prod.fst = (recency events).rtake cache.capacity)
    (found : cache.entries.lookup text = some shared) :
    (cache.used text shared).entries.map Prod.fst =
      ((recency events).filter (· != text) ++ [text]).rtake cache.capacity := by
  have member : text ∈ cache.entries.map Prod.fst :=
    List.mem_map.mpr ⟨(text, shared), mem_of_lookup found, rfl⟩
  have shorter : ((cache.entries.map Prod.fst).filter (· != text)).length <
      (cache.entries.map Prod.fst).length :=
    List.length_filter_lt_length_iff_exists.mpr ⟨text, member, by simp⟩
  have bound := length_rtake_le (recency events) cache.capacity
  rw [← texts] at bound
  rw [← rtake_moved (recency_nodup events), ← texts, rtake_of_length_le, used, List.map_append,
    map_without]
  · rfl
  · rw [List.length_append, List.length_singleton]
    omega

/-- A compiled text stands at the end, and the texts beyond the capacity are cut off. -/
theorem texts_filled (texts : cache.entries.map Prod.fst = (recency events).rtake cache.capacity) :
    (cache.filled text shared).entries.map Prod.fst =
      ((recency events).filter (· != text) ++ [text]).rtake cache.capacity := by
  unfold filled
  split
  case isTrue zero =>
      -- Without capacity no text is kept, and none was kept before.
      simp only [zero, List.rtake_zero] at texts ⊢
      exact texts
  case isFalse =>
      change ((cache.without text ++ [(text, shared)]).rtake cache.capacity).map Prod.fst = _
      rw [← rtake_moved (recency_nodup events), ← texts, map_rtake, List.map_append, map_without]
      rfl

theorem Does.texts (does : cache.Does event next)
    (texts : cache.entries.map Prod.fst = (recency events).rtake cache.capacity) :
    next.entries.map Prod.fst = (recency (events ++ [event])).rtake next.capacity := by
  rw [does.settings.1]
  cases does with
  | hit found => rw [recency_of_use rfl, texts_used texts found]
  | built absent compiled => rw [recency_of_use rfl, texts_filled texts]
  | cleared => rw [recency_cleared, List.rtake_nil]; rfl
  | nothing => rw [recency_nothing, texts]

theorem Does.programs (does : cache.Does event next)
    (programs : ∀ text shared, (text, shared) ∈ cache.entries →
      latestBuild? text events = some shared) (kept : (text, shared) ∈ next.entries) :
    latestBuild? text (events ++ [event]) = some shared := by
  rw [latestBuild?_append_singleton]
  rcases does.mem_entries kept with built | ⟨other, before⟩
  · rw [built]
    rfl
  · rw [other]
    exact programs text shared before

/-- A program that is given out is the latest one of its text. -/
theorem Does.hits (does : cache.Does event next)
    (programs : ∀ text shared, (text, shared) ∈ cache.entries →
      latestBuild? text events = some shared)
    (hits : ∀ before text shared behind, events = before ++ .hit text shared :: behind →
      latestBuild? text before = some shared)
    {before behind : List Event}
    (split : events ++ [event] = before ++ .hit text shared :: behind) :
    latestBuild? text before = some shared := by
  -- The hit is the latest event, or one of those before.
  rcases List.eq_nil_or_concat behind with rfl | ⟨shorter, last, rfl⟩
  · rcases List.append_inj' split rfl with ⟨rfl, same⟩
    cases same
    cases does with
    | hit found => exact programs text shared (mem_of_lookup found)
  · rw [List.concat_eq_append, ← List.cons_append, ← List.append_assoc] at split
    exact hits before text shared shorter (List.append_inj' split rfl).1

/-- A compilation gets a number that is larger than those of the compilations before. -/
theorem Does.serials (does : cache.Does event next)
    (ordered : (serials events).Pairwise (· < ·))
    (counted : ∀ serial ∈ Cache.serials events, serial < cache.nextSerial) :
    (Cache.serials (events ++ [event])).Pairwise (· < ·) ∧
      ∀ serial ∈ Cache.serials (events ++ [event]), serial < next.nextSerial := by
  cases does with
  | built absent compiled =>
      rw [serials_of_some rfl, nextSerial_filled, List.pairwise_append]
      refine ⟨⟨ordered, List.pairwise_singleton _ _, ?_⟩, ?_⟩
      · intro serial earlier latest isLatest
        rw [List.mem_singleton.mp isLatest]
        exact counted serial earlier
      · intro serial member
        rcases List.mem_append.mp member with earlier | latest
        · exact Nat.lt_succ_of_lt (counted serial earlier)
        · rw [List.mem_singleton.mp latest]
          exact Nat.lt_succ_self _
  | hit _ | cleared | nothing =>
      rw [serials_of_none rfl]
      exact ⟨ordered, counted⟩

theorem Does.follows (does : cache.Does event next) (follows : cache.Follows events) :
    next.Follows (events ++ [event]) where
  texts := does.texts follows.texts
  programs := fun _ _ kept => does.programs follows.programs kept
  hits := fun _ _ _ _ split => does.hits follows.programs follows.hits split
  ordered := (does.serials follows.ordered follows.counted).1
  counted := (does.serials follows.ordered follows.counted).2

end

theorem follows_after (capacity nesting : Nat) (history : List Request) :
    ((new capacity nesting).after history).Follows ((new capacity nesting).events history) := by
  induction history using List.reverseRecOn with
  | nil => exact follows_new capacity nesting
  | append_singleton history request ih =>
      rw [after_append_singleton, events_append_singleton]
      exact (does _ request).follows ih

/-- Between two hits on a text that is not compiled in between, the program stays the same. -/
theorem Follows.hits_agree {cache : Cache} {events before middle behind : List Event}
    {text : String} {first second : SharedProgram} (follows : cache.Follows events)
    (split : events = before ++ .hit text first :: (middle ++ .hit text second :: behind))
    (unbuilt : ∀ event ∈ middle, event.built? text = none) : first = second := by
  have atFirst := follows.hits _ _ _ _ split
  have atSecond := follows.hits (before ++ .hit text first :: middle) text second behind
    (by rw [split, List.append_assoc, List.cons_append])
  have quiet : latestBuild? text (.hit text first :: middle) = none := by
    rw [latestBuild?, List.findSome?_eq_none_iff]
    intro event member
    rcases List.mem_cons.mp (List.mem_reverse.mp member) with rfl | member
    · rfl
    · exact unbuilt event member
  rw [latestBuild?_append, quiet, Option.none_or, atFirst] at atSecond
  exact Option.some.inj atSecond

theorem Does.eq_of_nothing {cache next : Cache} (does : cache.Does .nothing next) :
    next = cache := by
  cases does
  rfl

/-- After any requests, a cache keeps as many of the texts in the order of their last uses as its
capacity allows, each with the program it was compiled to the last time.  The hits before gave out
the latest program of their text, so they agree until the text is compiled again, and every
compilation made a program of its own.  What gives out no program changes nothing. -/
theorem keeps_most_recently_used (capacity nesting : Nat) (history : List Request) :
    let cache := (new capacity nesting).after history
    let events := (new capacity nesting).events history
    cache.entries.map Prod.fst = (recency events).rtake capacity ∧
      (∀ text shared, (text, shared) ∈ cache.entries →
        latestBuild? text events = some shared) ∧
      (∀ before text shared behind, events = before ++ .hit text shared :: behind →
        latestBuild? text before = some shared) ∧
      (∀ before text first middle second behind,
        events = before ++ .hit text first :: (middle ++ .hit text second :: behind) →
        (∀ event ∈ middle, event.built? text = none) → first = second) ∧
      (serials events).Pairwise (· < ·) ∧
      ∀ request, cache.event request = .nothing → cache.next request = cache := by
  intro cache events
  have follows : cache.Follows events := follows_after capacity nesting history
  have sameCapacity : cache.capacity = capacity := (settings_after _ history).1
  refine ⟨?_, follows.programs, follows.hits, ?_, follows.ordered, ?_⟩
  · rw [follows.texts, sameCapacity]
  · intro before text first middle second behind split unbuilt
    exact follows.hits_agree split unbuilt
  · intro request quiet
    have does := cache.does request
    rw [quiet] at does
    exact does.eq_of_nothing

/-- With room for two texts, the hit on `a` saves it from being dropped for `c`; a text that is no
selector does not count. -/
theorem keeps_most_recently_used_of_three :
    let history : List Request :=
      [.getOrCompile "a", .getOrCompile "b", .get "a", .getOrCompile "b >", .getOrCompile "c"]
    let cache := (new 2 64).after history
    cache.entries.map Prod.fst = ["a", "c"] ∧
      ∃ shared, ("a", shared) ∈ cache.entries ∧
        latestBuild? "a" ((new 2 64).events history) = some shared := by
  intro history cache
  have kept := keeps_most_recently_used 2 64 history
  have texts : cache.entries.map Prod.fst = ["a", "c"] := by
    rw [kept.1]
    decide +kernel
  have member : "a" ∈ cache.entries.map Prod.fst := by
    rw [texts]
    exact List.mem_cons_self
  rcases List.mem_map.mp member with ⟨⟨text, shared⟩, entry, same⟩
  cases same
  exact ⟨texts, shared, entry, kept.2.1 "a" shared entry⟩

end Cache

end NodeQuery
