import TextQuery.Query

/-!
A cache of compiled artifacts. An artifact is stored under its kind, the item type and the text, and
a stored one is handed out again, if it is of the kind and for the item type that are asked for.
Failures are not stored, and once the cache holds its greatest number of entries, new artifacts are
compiled and handed out without being stored. Every artifact that is compiled has an identity of its
own, so one can tell whether two requests were given the same one.
-/

namespace TextQuery

variable {ι : Type}

/-- The kinds of artifacts. -/
inductive ArtifactKind where
  | filter
  | order
  | select
deriving DecidableEq, Repr

/-- A compiled artifact. -/
inductive Artifact (ι : Type) where
  | filter (filter : Filter ι)
  | order (order : Option (Order ι))
  | select (projection : Option Projection)
deriving DecidableEq, Repr

/-- The kind of an artifact. -/
def Artifact.kind : Artifact ι → ArtifactKind
  | filter _ => .filter
  | order _ => .order
  | select _ => .select

/-- What a cache is asked for, and what it stores artifacts under. -/
structure CacheKey (ι : Type) where
  kind : ArtifactKind
  model : ι
  text : Text
deriving DecidableEq, Repr

/-- Compiles what a key asks for. -/
def CacheKey.compile (catalog : Catalog ι) (options : CompileOptions) (key : CacheKey ι) :
    Except CompileError (Artifact ι) :=
  match key.kind with
  | .filter => (Filter.compile catalog options (catalog key.model) key.text).map .filter
  | .order => (Order.compile catalog options (catalog key.model) key.text).map .order
  | .select => (Projection.compile (catalog key.model) key.text).map .select

/-- An artifact with the identity that it was given when it was compiled, and the item type that it
was compiled for. -/
structure Shared (ι : Type) where
  identity : Nat
  model : ι
  artifact : Artifact ι
deriving DecidableEq, Repr

/-- A cache: its options, its bound, its entries, and the identity of the next artifact. -/
structure Cache (ι : Type) where
  options : CompileOptions
  maxEntries : Nat
  entries : List (CacheKey ι × Shared ι)
  nextIdentity : Nat
deriving DecidableEq, Repr

namespace Cache

/-- The bound of a cache that is given none. -/
def defaultMaxEntries : Nat :=
  1024

/-- An empty cache. -/
def empty (options : CompileOptions) (maxEntries : Nat) : Cache ι :=
  ⟨options, maxEntries, [], 0⟩

/-- The number of stored artifacts. -/
def size (cache : Cache ι) : Nat :=
  cache.entries.length

/-- Whether nothing is stored. -/
def isEmpty (cache : Cache ι) : Bool :=
  cache.entries.isEmpty

/-- Drops all stored artifacts. -/
def clear (cache : Cache ι) : Cache ι :=
  { cache with entries := [] }

variable [DecidableEq ι]

/-- The artifact that is stored under a key, if it is of the sort that the key asks for. -/
def lookup? (cache : Cache ι) (key : CacheKey ι) : Option (Shared ι) :=
  ((cache.entries.find? (·.1 = key)).map (·.2)).filter fun shared =>
    shared.artifact.kind = key.kind && shared.model = key.model

/-- Stores an artifact under a key, in place of the one that is stored there. -/
def insert (cache : Cache ι) (key : CacheKey ι) (shared : Shared ι) : Cache ι :=
  { cache with entries := cache.entries.filter (·.1 ≠ key) ++ [(key, shared)] }

/-- Hands out the artifact for a key, from the store or compiled anew, and the cache after that. -/
def get (catalog : Catalog ι) (cache : Cache ι) (key : CacheKey ι) :
    Except CompileError (Shared ι) × Cache ι :=
  match cache.lookup? key with
  | some shared => (.ok shared, cache)
  | none =>
    match key.compile catalog cache.options with
    | .error error => (.error error, cache)
    | .ok artifact =>
      let shared := ⟨cache.nextIdentity, key.model, artifact⟩
      let next := { cache with nextIdentity := cache.nextIdentity + 1 }
      (.ok shared, if cache.size < cache.maxEntries then next.insert key shared else next)

end Cache

end TextQuery
