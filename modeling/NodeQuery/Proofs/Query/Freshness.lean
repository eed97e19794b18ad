import NodeQuery.Proofs.Query.CacheHistory
import NodeQuery.Proofs.Query.Composition
import NodeQuery.Query.Engine

/-!
# Answers without a trace of the past

A cache only keeps what compiling would give anew, so its answers do not tell what it was asked
before.  An engine's cache is such a cache; what queries an engine had to answer earlier does not
matter to a query, only the transforms that have been registered do.
-/

namespace NodeQuery

namespace Cache

/-- Every kept program is the compilation of its text. -/
def Sound (cache : Cache) : Prop :=
  ∀ text shared, (text, shared) ∈ cache.entries →
    Program.compile text cache.predicateNesting = .ok shared.program

theorem sound_new (capacity nesting : Nat) : (new capacity nesting).Sound := by
  intro text shared kept
  cases kept

theorem Does.sound {cache next : Cache} {event : Event} (does : cache.Does event next)
    (sound : cache.Sound) : next.Sound := by
  intro text shared kept
  rw [does.settings.2]
  rcases does.mem_entries kept with built | ⟨_, before⟩
  · exact (does.compiled built).1
  · exact sound text shared before

theorem sound_after {cache : Cache} (sound : cache.Sound) (history : List Request) :
    (cache.after history).Sound := by
  induction history generalizing cache with
  | nil => exact sound
  | cons request history ih => exact ih ((cache.does request).sound sound)

/-- A sound cache gives out the program that compiling the text gives, or its error. -/
theorem getOrCompile_of_sound {cache : Cache} (sound : cache.Sound) (text : String) :
    (cache.getOrCompile text).1.map SharedProgram.program =
      Program.compile text cache.predicateNesting := by
  cases found : cache.entries.lookup text with
  | some shared =>
      rw [getOrCompile_of_kept found, sound text shared (mem_of_lookup found)]
      rfl
  | none =>
      cases compiled : Program.compile text cache.predicateNesting with
      | error error =>
          rw [getOrCompile_of_rejected found compiled]
          rfl
      | ok program =>
          rw [getOrCompile_of_compiled found compiled]
          rfl

theorem get?_of_sound {cache : Cache} (sound : cache.Sound) {text : String}
    {shared : SharedProgram} (hit : (cache.get? text).1 = some shared) :
    Program.compile text cache.predicateNesting = .ok shared.program := by
  cases found : cache.entries.lookup text with
  | some _ =>
      rw [get?_of_kept found] at hit
      cases hit
      exact sound text shared (mem_of_lookup found)
  | none =>
      rw [get?_of_absent found] at hit
      cases hit

end Cache

/-! ## Engines -/

namespace Engine

variable {Node Key : Type}

/-- What can be asked of an engine. -/
inductive Request (Node : Type) where
  | compile (source : String)
  | query (source : String) (roots : List Node)
  | registerPseudo (name : String) (pseudo : Pseudo Node)
  | registerFunction (name : String) (function : Function Node)
  /-- Something asked of the engine's cache. -/
  | cache (request : Cache.Request)

/-- The transforms behind a request. -/
def Request.register (registry : Registry Node) : Request Node → Registry Node
  | .registerPseudo name pseudo => registry.registerPseudo name pseudo
  | .registerFunction name function => registry.registerFunction name function
  | .compile _ | .query _ _ | .cache _ => registry

variable [BEq Key] [Hashable Key] (model : NodeModel Node Key)

/-- The engine behind a request. -/
def next (engine : Engine Node) : Request Node → Engine Node
  | .compile source => (engine.compile source).2
  | .query source roots => (engine.query model source roots).2
  | .registerPseudo name pseudo => engine.registerPseudo name pseudo
  | .registerFunction name function => engine.registerFunction name function
  | .cache request => { engine with cache := engine.cache.next request }

/-- The engine behind some requests. -/
def after (engine : Engine Node) (history : List (Request Node)) : Engine Node :=
  history.foldl (next model) engine

/-- What a query answers if the selector is compiled from scratch. -/
def answerAnew (binding : Binding Node) (registry : Registry Node) (limits : Limits)
    (source : String) (roots : List Node) : Except Error (List Node) :=
  match Program.compile source limits.predicateNesting with
  | .ok program => program.run model (binding.provider model) registry limits roots
  | .error error => .error (.selector error)

theorem compile_engine (engine : Engine Node) (source : String) :
    (engine.compile source).2 = { engine with cache := engine.cache.next (.getOrCompile source) } :=
  rfl

theorem query_engine (engine : Engine Node) (source : String) (roots : List Node) :
    (engine.query model source roots).2 = (engine.compile source).2 := by
  unfold query
  split
  case h_1 compiled => rw [compiled]
  case h_2 compiled => rw [compiled]

/-- A request changes no more than the registered transforms and the state of the cache. -/
theorem next_eq (engine : Engine Node) (request : Request Node) :
    ∃ asked : List Cache.Request, engine.next model request =
      ⟨engine.binding, request.register engine.registry, engine.limits,
        engine.cache.after asked⟩ := by
  cases request with
  | compile source => exact ⟨[.getOrCompile source], rfl⟩
  | query source roots =>
      refine ⟨[.getOrCompile source], ?_⟩
      rw [next, query_engine, compile_engine]
      rfl
  | registerPseudo name pseudo => exact ⟨[], rfl⟩
  | registerFunction name function => exact ⟨[], rfl⟩
  | cache asked => exact ⟨[asked], rfl⟩

/-- So do many requests. -/
theorem after_eq (engine : Engine Node) (history : List (Request Node)) :
    ∃ asked : List Cache.Request, engine.after model history =
      ⟨engine.binding, history.foldl Request.register engine.registry, engine.limits,
        engine.cache.after asked⟩ := by
  induction history generalizing engine with
  | nil => exact ⟨[], rfl⟩
  | cons request history ih =>
      rcases next_eq model engine request with ⟨first, stepped⟩
      rcases ih (engine.next model request) with ⟨behind, ran⟩
      refine ⟨first ++ behind, ?_⟩
      change (engine.next model request).after model history = _
      rw [ran, stepped]
      simp [Cache.after]

/-- A query is answered as if its selector were compiled anew. -/
theorem query_of_sound {engine : Engine Node} (sound : engine.cache.Sound)
    (nesting : engine.cache.predicateNesting = engine.limits.predicateNesting)
    (source : String) (roots : List Node) :
    (engine.query model source roots).1 =
      answerAnew model engine.binding engine.registry engine.limits source roots := by
  have given := Cache.getOrCompile_of_sound sound source
  rw [nesting] at given
  rw [answerAnew, ← given]
  cases outcome : engine.cache.getOrCompile source with
  | mk result cache =>
      cases result with
      | ok shared => simp only [query, compile, outcome]; rfl
      | error error => simp only [query, compile, outcome]; rfl

end Engine

/-- Whatever was asked before, a cache gives out what compiling the text gives, and an engine
answers a query as if its selector were compiled from scratch and run with the transforms that are
registered at that moment. -/
theorem answers_do_not_depend_on_history {Node Key : Type} [BEq Key] [Hashable Key]
    (model : NodeModel Node Key) :
    (∀ (capacity nesting : Nat) (history : List Cache.Request) (text : String),
      let cache := (Cache.new capacity nesting).after history
      (cache.getOrCompile text).1.map SharedProgram.program = Program.compile text nesting ∧
        ∀ shared, (cache.get? text).1 = some shared →
          Program.compile text nesting = .ok shared.program) ∧
    ∀ (binding : Binding Node) (registry : Registry Node) (limits : Limits) (capacity : Nat)
      (history : List (Engine.Request Node)) (source : String) (roots : List Node),
      let engine := (Engine.new binding registry limits capacity).after model history
      (engine.query model source roots).1 =
        Engine.answerAnew model binding (history.foldl Engine.Request.register registry) limits
          source roots := by
  constructor
  · intro capacity nesting history text
    have sound := Cache.sound_after (Cache.sound_new capacity nesting) history
    have settings := (Cache.settings_after (Cache.new capacity nesting) history).2
    refine ⟨?_, ?_⟩
    · rw [Cache.getOrCompile_of_sound sound, settings]
      rfl
    · intro shared hit
      have compiled := Cache.get?_of_sound sound hit
      rw [settings] at compiled
      exact compiled
  · intro binding registry limits capacity history source roots
    rcases Engine.after_eq model (Engine.new binding registry limits capacity) history
      with ⟨asked, engine⟩
    rw [engine]
    exact Engine.query_of_sound model (Cache.sound_after (Cache.sound_new _ _) asked)
      (Cache.settings_after _ asked).2 source roots

/-- The program of a selector that failed for an unknown transform is found in the cache when the
transform has been registered, and then it runs. -/
theorem answers_after_registration :
    let model : NodeModel Nat Nat := { key := id, tag := fun _ => some "a" }
    let failed : Engine.Request Nat := .query "a:mine" [3, 4]
    let registered : Engine.Request Nat := .registerPseudo "mine" Registry.first
    let engine := (Engine.new .hooks .empty ⟨2, 64⟩ 1).after model [failed, registered]
    (engine.query model "a:mine" [3, 4]).1 = .ok [3, 4] ∧
      ∃ shared, (((Cache.new 1 64).after [.getOrCompile "a:mine"]).get? "a:mine").1 = some shared ∧
        Program.compile "a:mine" 64 = .ok shared.program := by
  intro model failed registered engine
  have answers := answers_do_not_depend_on_history model
  have hit : (((Cache.new 1 64).after [.getOrCompile "a:mine"]).get? "a:mine").1.isSome = true := by
    decide +kernel
  rcases Option.isSome_iff_exists.mp hit with ⟨shared, found⟩
  refine ⟨?_, shared, found, (answers.1 1 64 [.getOrCompile "a:mine"] "a:mine").2 shared found⟩
  rw [answers.2 .hooks .empty ⟨2, 64⟩ 1 [failed, registered] "a:mine" [3, 4]]
  have compiled : Program.compile "a:mine" 64 =
      .ok (.ofSelector "a:mine" ⟨[⟨[.tag "a", .pseudo "mine"]⟩]⟩ 64) := by
    with_unfolding_all rfl
  rw [Engine.answerAnew, compiled]
  exact (run_of_resolved rfl _ _).trans rfl

end NodeQuery
