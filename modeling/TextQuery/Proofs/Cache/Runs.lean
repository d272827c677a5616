import TextQuery.Cache

/-!
Runs of a cache. A cache serves requests one after the other: for the artifact of a key, or to be
cleared. Main statement: `get_cases`, all that a request for an artifact can do. It finds what is
stored, fails without a trace, or hands out a new artifact, which is stored if the cache has room.
-/

namespace TextQuery.Cache

variable {ι : Type}

/-- What a cache is asked to do. -/
inductive Request (ι : Type) where
  | get (key : CacheKey ι)
  | clear

/-- What a request gives: an artifact or an error, and nothing if the cache is cleared. -/
abbrev Answer (ι : Type) := Option (Except CompileError (Shared ι))

variable [DecidableEq ι]

/-- The answer to one request, and the cache after it. -/
def serve (catalog : Catalog ι) (cache : Cache ι) : Request ι → Answer ι × Cache ι
  | .get key => (some (cache.get catalog key).1, (cache.get catalog key).2)
  | .clear => (none, cache.clear)

/-- The answers to requests in their order, and the cache after all of them. -/
def run (catalog : Catalog ι) (cache : Cache ι) : List (Request ι) → List (Answer ι) × Cache ι
  | [] => ([], cache)
  | request :: more =>
    let (answer, next) := cache.serve catalog request
    let (answers, last) := run catalog next more
    (answer :: answers, last)

/-! ## One request -/

variable {catalog : Catalog ι} {cache : Cache ι} {key : CacheKey ι}

@[simp] theorem serve_get : cache.serve catalog (.get key) =
    (some (cache.get catalog key).1, (cache.get catalog key).2) :=
  rfl

@[simp] theorem run_cons (request : Request ι) (more : List (Request ι)) :
    cache.run catalog (request :: more) =
      ((cache.serve catalog request).1 :: ((cache.serve catalog request).2.run catalog more).1,
        ((cache.serve catalog request).2.run catalog more).2) :=
  rfl

/-- What is found under a key is stored there, of the kind and for the item type of the key. -/
theorem lookup?_eq_some {shared : Shared ι} (found : cache.lookup? key = some shared) :
    (key, shared) ∈ cache.entries ∧ shared.artifact.kind = key.kind ∧ shared.model = key.model := by
  unfold lookup? at found
  obtain ⟨stored, suits⟩ := Option.filter_eq_some_iff.1 found
  obtain ⟨entry, first, rfl⟩ := Option.map_eq_some_iff.1 stored
  have named := List.find?_some first
  obtain rfl : entry.1 = key := of_decide_eq_true named
  obtain ⟨kind, model⟩ := Bool.and_eq_true_iff.1 suits
  exact ⟨List.mem_of_find?_eq_some first, of_decide_eq_true kind, of_decide_eq_true model⟩

theorem mem_entries_insert {shared : Shared ι} {entry : CacheKey ι × Shared ι} :
    entry ∈ (cache.insert key shared).entries ↔
      (entry ∈ cache.entries ∧ entry.1 ≠ key) ∨ entry = (key, shared) := by
  unfold insert
  rw [List.mem_append, List.mem_filter, List.mem_singleton, decide_eq_true_iff]

/-- All that a request for an artifact can do. -/
theorem get_cases (catalog : Catalog ι) (cache : Cache ι) (key : CacheKey ι) :
    (∃ shared, cache.lookup? key = some shared ∧ cache.get catalog key = (.ok shared, cache)) ∨
    (∃ error, cache.lookup? key = none ∧ key.compile catalog cache.options = .error error ∧
      cache.get catalog key = (.error error, cache)) ∨
    (∃ artifact, cache.lookup? key = none ∧ key.compile catalog cache.options = .ok artifact ∧
      cache.get catalog key =
        (.ok ⟨cache.nextIdentity, key.model, artifact⟩,
          if cache.size < cache.maxEntries then
            { cache with nextIdentity := cache.nextIdentity + 1 }.insert key
              ⟨cache.nextIdentity, key.model, artifact⟩
          else { cache with nextIdentity := cache.nextIdentity + 1 })) := by
  unfold get
  cases found : cache.lookup? key with
  | some shared => exact Or.inl ⟨shared, rfl, rfl⟩
  | none =>
    cases compiled : key.compile catalog cache.options with
    | error error => exact Or.inr (Or.inl ⟨error, rfl, rfl, rfl⟩)
    | ok artifact => exact Or.inr (Or.inr ⟨artifact, rfl, rfl, rfl⟩)

end TextQuery.Cache
