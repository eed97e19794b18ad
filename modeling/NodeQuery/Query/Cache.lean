import NodeQuery.Query.Program

/-!
# A cache of programs

A cache keeps the programs of the selector texts that were used last.  Each compilation makes a
program of its own; its serial number tells it apart from every other, also of the same text.
-/

namespace NodeQuery

/-- A program and the serial number of its compilation. -/
structure SharedProgram where
  serial : Nat
  program : Program

/-- The texts used last and their programs. -/
structure Cache where
  /-- How many texts are kept; none at all if it is zero. -/
  capacity : Nat
  /-- How deep the predicates of compiled selectors may nest. -/
  predicateNesting : Nat
  /-- The kept programs by their texts, the least recently used first. -/
  entries : List (String × SharedProgram)
  /-- The serial number of the next compilation. -/
  nextSerial : Nat

namespace Cache

/-- How many texts a cache keeps if nothing else is asked for. -/
def defaultCapacity : Nat := 256

/-- A cache that has not been used. -/
def new (capacity predicateNesting : Nat) : Cache := ⟨capacity, predicateNesting, [], 0⟩

def size (cache : Cache) : Nat := cache.entries.length

def isEmpty (cache : Cache) : Bool := cache.entries.isEmpty

/-- Whether a text is kept. -/
def contains (cache : Cache) (text : String) : Bool := (cache.entries.lookup text).isSome

/-- Forgets all texts. -/
def clear (cache : Cache) : Cache := { cache with entries := [] }

/-- The entries without that of the given text. -/
def without (cache : Cache) (text : String) : List (String × SharedProgram) :=
  cache.entries.filter fun (other, _) => other != text

/-- The program kept for a text, which counts as a use of the text. -/
def get? (cache : Cache) (text : String) : Option SharedProgram × Cache :=
  match cache.entries.lookup text with
  | some shared => (some shared, { cache with entries := cache.without text ++ [(text, shared)] })
  | none => (none, cache)

/-- Keeps a program, and drops the least recently used ones beyond the capacity. -/
def insert (cache : Cache) (text : String) (shared : SharedProgram) : Cache :=
  let entries := cache.without text ++ [(text, shared)]
  { cache with entries := entries.drop (entries.length - cache.capacity) }

/-- Compiles a text, whether or not it is kept.  Only a success takes a serial number. -/
def compile (cache : Cache) (text : String) :
    Except Selector.SyntaxError (SharedProgram × Cache) := do
  let program ← Program.compile text cache.predicateNesting
  .ok (⟨cache.nextSerial, program⟩, { cache with nextSerial := cache.nextSerial + 1 })

/-- The program of a text: the kept one, or else a new one, which is kept from then on.  A text
that is no selector leaves the cache as it is. -/
def getOrCompile (cache : Cache) (text : String) :
    Except Selector.SyntaxError SharedProgram × Cache :=
  match cache.get? text with
  | (some shared, used) => (.ok shared, used)
  | (none, _) =>
      match cache.compile text with
      | .error error => (.error error, cache)
      | .ok (shared, counted) =>
          (.ok shared, if cache.capacity = 0 then counted else counted.insert text shared)

end Cache

end NodeQuery
