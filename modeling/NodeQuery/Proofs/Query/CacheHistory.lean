import NodeQuery.Query.Cache

/-!
# Histories of a cache

A cache is asked one thing after the other.  An `Event` says what a request came to: the kept
program of a text was given out, or the text had to be compiled, or all was forgotten, or nothing
happened.  `Cache.does` says once what each event makes of the cache.
-/

namespace NodeQuery

namespace Cache

/-- What can be asked of a cache. -/
inductive Request where
  | getOrCompile (text : String)
  | get (text : String)
  | contains (text : String)
  | size
  | isEmpty
  | clear

/-- The cache behind a request. -/
def next (cache : Cache) : Request → Cache
  | .getOrCompile text => (cache.getOrCompile text).2
  | .get text => (cache.get? text).2
  | .contains _ | .size | .isEmpty => cache
  | .clear => cache.clear

/-- The cache behind some requests. -/
def after (cache : Cache) (history : List Request) : Cache := history.foldl next cache

/-- What a request comes to. -/
inductive Event where
  /-- The kept program of the text was given out. -/
  | hit (text : String) (shared : SharedProgram)
  /-- The text was not kept and has been compiled. -/
  | built (text : String) (shared : SharedProgram)
  | cleared
  /-- No program was given out. -/
  | nothing

/-- The program that the given text has been compiled to. -/
def Event.built? (text : String) : Event → Option SharedProgram
  | .built other shared => if other = text then some shared else none
  | .hit _ _ | .cleared | .nothing => none

/-- What a request to a cache comes to. -/
def event (cache : Cache) : Request → Event
  | .getOrCompile text =>
      match (cache.getOrCompile text).1 with
      | .ok shared => if cache.contains text then .hit text shared else .built text shared
      | .error _ => .nothing
  | .get text =>
      match (cache.get? text).1 with
      | some shared => .hit text shared
      | none => .nothing
  | .contains _ | .size | .isEmpty => .nothing
  | .clear => .cleared

/-- What some requests come to, one after the other. -/
def events (cache : Cache) : List Request → List Event
  | [] => []
  | request :: history => cache.event request :: (cache.next request).events history

theorem after_append_singleton (cache : Cache) (history : List Request) (request : Request) :
    cache.after (history ++ [request]) = (cache.after history).next request := by
  simp [after]

theorem events_append_singleton (cache : Cache) (history : List Request) (request : Request) :
    cache.events (history ++ [request]) =
      cache.events history ++ [(cache.after history).event request] := by
  induction history generalizing cache with
  | nil => rfl
  | cons first history ih => simp [events, ih, after]

/-! ## What a request for a program comes to -/

section

variable {cache : Cache} {text : String}

theorem mem_of_lookup {shared : SharedProgram}
    (found : cache.entries.lookup text = some shared) : (text, shared) ∈ cache.entries := by
  rcases List.lookup_eq_some_iff.mp found with ⟨before, behind, entries, _⟩
  simp [entries]

theorem mem_of_mem_without {entry : String × SharedProgram} (other : entry ∈ cache.without text) :
    entry ∈ cache.entries :=
  (List.mem_filter.mp other).1

/-- The cache behind the use of a kept program. -/
def used (cache : Cache) (text : String) (shared : SharedProgram) : Cache :=
  { cache with entries := cache.without text ++ [(text, shared)] }

/-- The cache behind the compilation of a text that was not kept. -/
def filled (cache : Cache) (text : String) (shared : SharedProgram) : Cache :=
  let counted := { cache with nextSerial := cache.nextSerial + 1 }
  if cache.capacity = 0 then counted else counted.insert text shared

theorem mem_filled {new : String} {program shared : SharedProgram}
    (kept : (text, shared) ∈ (cache.filled new program).entries) :
    (text, shared) ∈ cache.entries ∨ text = new ∧ shared = program := by
  unfold filled at kept
  split at kept
  case isTrue => exact .inl kept
  case isFalse =>
      rcases List.mem_append.mp (List.mem_of_mem_drop kept) with other | added
      · exact .inl (mem_of_mem_without other)
      · exact .inr (by simpa using added)

theorem nextSerial_filled (cache : Cache) (text : String) (shared : SharedProgram) :
    (cache.filled text shared).nextSerial = cache.nextSerial + 1 := by
  unfold filled
  split <;> rfl

theorem get?_of_kept {shared : SharedProgram} (found : cache.entries.lookup text = some shared) :
    cache.get? text = (some shared, cache.used text shared) := by
  simp only [get?, found, used]

theorem get?_of_absent (absent : cache.entries.lookup text = none) :
    cache.get? text = (none, cache) := by
  simp only [get?, absent]

theorem getOrCompile_of_kept {shared : SharedProgram}
    (found : cache.entries.lookup text = some shared) :
    cache.getOrCompile text = (.ok shared, cache.used text shared) := by
  simp only [getOrCompile, get?_of_kept found]

theorem getOrCompile_of_compiled {program : Program} (absent : cache.entries.lookup text = none)
    (compiled : Program.compile text cache.predicateNesting = .ok program) :
    cache.getOrCompile text =
      (.ok ⟨cache.nextSerial, program⟩, cache.filled text ⟨cache.nextSerial, program⟩) := by
  simp only [getOrCompile, get?_of_absent absent, compile, compiled]
  rfl

theorem getOrCompile_of_rejected {error : Selector.SyntaxError}
    (absent : cache.entries.lookup text = none)
    (rejected : Program.compile text cache.predicateNesting = .error error) :
    cache.getOrCompile text = (.error error, cache) := by
  simp only [getOrCompile, get?_of_absent absent, compile, rejected]
  rfl

end

/-! ## What an event makes of a cache -/

/-- What an event makes of a cache. -/
inductive Does (cache : Cache) : Event → Cache → Prop where
  | hit {text : String} {shared : SharedProgram}
      (found : cache.entries.lookup text = some shared) :
      Does cache (.hit text shared) (cache.used text shared)
  | built {text : String} {program : Program} (absent : cache.entries.lookup text = none)
      (compiled : Program.compile text cache.predicateNesting = .ok program) :
      Does cache (.built text ⟨cache.nextSerial, program⟩)
        (cache.filled text ⟨cache.nextSerial, program⟩)
  | cleared : Does cache .cleared cache.clear
  | nothing : Does cache .nothing cache

theorem does (cache : Cache) (request : Request) :
    cache.Does (cache.event request) (cache.next request) := by
  cases request with
  | getOrCompile text =>
      cases found : cache.entries.lookup text with
      | some shared =>
          simp only [event, next, contains, getOrCompile_of_kept found, found]
          exact .hit found
      | none =>
          cases compiled : Program.compile text cache.predicateNesting with
          | error error =>
              simp only [event, next, getOrCompile_of_rejected found compiled]
              exact .nothing
          | ok program =>
              simp only [event, next, contains, getOrCompile_of_compiled found compiled, found]
              exact .built found compiled
  | get text =>
      cases found : cache.entries.lookup text with
      | some shared =>
          simp only [event, next, get?_of_kept found]
          exact .hit found
      | none =>
          simp only [event, next, get?_of_absent found]
          exact .nothing
  | contains _ | size | isEmpty => exact .nothing
  | clear => exact .cleared

namespace Does

variable {cache next : Cache} {event : Event} {text : String} {shared : SharedProgram}

/-- Capacity and limit stay what they are. -/
theorem settings (does : cache.Does event next) :
    next.capacity = cache.capacity ∧ next.predicateNesting = cache.predicateNesting := by
  cases does with
  | built absent compiled => unfold filled; split <;> exact ⟨rfl, rfl⟩
  | _ => exact ⟨rfl, rfl⟩

/-- A program is compiled for its text and gets the next serial number. -/
theorem compiled (does : cache.Does event next) (built : event.built? text = some shared) :
    Program.compile text cache.predicateNesting = .ok shared.program ∧
      shared.serial = cache.nextSerial := by
  cases does with
  | built absent compiled =>
      simp only [Event.built?] at built
      split at built
      case isTrue same =>
          subst same
          cases built
          exact ⟨compiled, rfl⟩
      case isFalse => cases built
  | _ => cases built

/-- A kept program has just been compiled, or else was kept before. -/
theorem mem_entries (does : cache.Does event next) (kept : (text, shared) ∈ next.entries) :
    event.built? text = some shared ∨
      event.built? text = none ∧ (text, shared) ∈ cache.entries := by
  cases does with
  | hit found =>
      rcases List.mem_append.mp kept with other | used
      · exact .inr ⟨rfl, mem_of_mem_without other⟩
      · rw [List.mem_singleton] at used
        cases used
        exact .inr ⟨rfl, mem_of_lookup found⟩
  | @built new program absent compiled =>
      rcases mem_filled kept with before | ⟨rfl, rfl⟩
      · have different : new ≠ text := by
          rintro rfl
          have lacks := List.lookup_eq_none_iff.mp absent _ before
          simp at lacks
        exact .inr ⟨by simp [Event.built?, different], before⟩
      · exact .inl (by simp [Event.built?])
  | cleared => cases kept
  | nothing => exact .inr ⟨rfl, kept⟩

end Does

theorem settings_after (cache : Cache) (history : List Request) :
    (cache.after history).capacity = cache.capacity ∧
      (cache.after history).predicateNesting = cache.predicateNesting := by
  induction history generalizing cache with
  | nil => exact ⟨rfl, rfl⟩
  | cons request history ih =>
      have first := (cache.does request).settings
      have behind := ih (cache.next request)
      exact ⟨behind.1.trans first.1, behind.2.trans first.2⟩

end Cache

end NodeQuery
