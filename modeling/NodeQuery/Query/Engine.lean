import NodeQuery.Query.Cache
import NodeQuery.Query.Execution

/-!
# Engines

An engine bundles what queries need: where nodes take their answers from, the named transforms, the
limits, and a cache of its own.
-/

namespace NodeQuery

/-- A program together with the binding and the limits under which it runs. -/
structure CompiledSelector (Node : Type) where
  shared : SharedProgram
  binding : Binding Node
  limits : Limits

namespace CompiledSelector

variable {Node Key : Type}

/-- A program bound to the nodes' own answers, under the default limits. -/
def ofProgram (shared : SharedProgram) : CompiledSelector Node := ⟨shared, .hooks, {}⟩

variable [BEq Key] [Hashable Key]

/-- The nodes that the selector finds, with the transforms of a registry. -/
def queryWith (selector : CompiledSelector Node) (model : NodeModel Node Key)
    (registry : Registry Node) (roots : List Node) : Except Error (List Node) :=
  selector.shared.program.run model (selector.binding.provider model) registry selector.limits
    roots

/-- The nodes that the selector finds, with the transforms that every selector may use. -/
def query (selector : CompiledSelector Node) (model : NodeModel Node Key) (roots : List Node) :
    Except Error (List Node) :=
  selector.queryWith model .builtin roots

end CompiledSelector

/-- A configured query engine. -/
structure Engine (Node : Type) where
  binding : Binding Node
  registry : Registry Node
  limits : Limits
  cache : Cache

namespace Engine

variable {Node Key : Type}

/-- An engine with an unused cache. -/
def new (binding : Binding Node) (registry : Registry Node) (limits : Limits)
    (cacheCapacity : Nat) : Engine Node :=
  ⟨binding, registry, limits, .new cacheCapacity limits.predicateNesting⟩

/-- The nodes' own answers, the builtin transforms and the default limits. -/
def default : Engine Node := new .hooks .builtin {} Cache.defaultCapacity

def registerPseudo (engine : Engine Node) (name : String) (pseudo : Pseudo Node) : Engine Node :=
  { engine with registry := engine.registry.registerPseudo name pseudo }

def registerFunction (engine : Engine Node) (name : String) (function : Function Node) :
    Engine Node :=
  { engine with registry := engine.registry.registerFunction name function }

/-- Compiles a selector through the engine's cache. -/
def compile (engine : Engine Node) (source : String) :
    Except Selector.SyntaxError (CompiledSelector Node) × Engine Node :=
  let (result, cache) := engine.cache.getOrCompile source
  (result.map fun shared => ⟨shared, engine.binding, engine.limits⟩,
    { engine with cache := cache })

/-- Compiles a selector and runs it with the engine's transforms. -/
def query [BEq Key] [Hashable Key] (engine : Engine Node) (model : NodeModel Node Key)
    (source : String) (roots : List Node) : Except Error (List Node) × Engine Node :=
  match engine.compile source with
  | (.ok selector, used) => (selector.queryWith model engine.registry roots, used)
  | (.error error, used) => (.error (.selector error), used)

/-- The engine's parts, spelled out. -/
def describe (engine : Engine Node) : String :=
  "Engine \x7b provider: " ++ engine.binding.describe ++
    ", registry: " ++ engine.registry.describe ++
    ", limits: Limits \x7b max_depth: " ++ toString engine.limits.maxDepth ++
    ", predicate: PredicateLimits \x7b recursion_limit: " ++
    toString engine.limits.predicateNesting ++
    " \x7d \x7d, cache: CacheConfig \x7b capacity: " ++ toString engine.cache.capacity ++
    " \x7d \x7d"

end Engine

end NodeQuery
