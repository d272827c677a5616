import Mathlib.Data.List.Nodup
import TextQuery.Proofs.Cache.Runs
import TextQuery.Proofs.Traversal
import TextQuery.Samples.Catalog

/-!
What a cache holds over a run. A cache that starts out empty stays well kept (`WellKept`): within
its bound, with one entry for each key, each of the kind and for the item type of its key, and with
identities that no later artifact is given. So a request finds exactly what is stored under its key
(`WellKept.get_cases`), and an entry stays where it is until the cache is cleared. Main statement:
`entries_over_run`.
-/

namespace TextQuery

variable {ι : Type}

theorem CacheKey.kind_of_compile {catalog : Catalog ι} {options : CompileOptions}
    {key : CacheKey ι} {artifact : Artifact ι}
    (compiled : key.compile catalog options = .ok artifact) : artifact.kind = key.kind := by
  obtain ⟨kind, model, text⟩ := key
  cases kind with
  | filter =>
    obtain ⟨filter, -, rfl⟩ := map_eq_ok_iff.1 compiled
    rfl
  | order =>
    obtain ⟨order, -, rfl⟩ := map_eq_ok_iff.1 compiled
    rfl
  | select =>
    obtain ⟨projection, -, rfl⟩ := map_eq_ok_iff.1 compiled
    rfl

namespace Cache

/-- The keys under which artifacts are stored. -/
def keys (cache : Cache ι) : List (CacheKey ι) :=
  cache.entries.map (·.1)

theorem mem_keys_iff {cache : Cache ι} {key : CacheKey ι} :
    key ∈ cache.keys ↔ ∃ shared, (key, shared) ∈ cache.entries := by
  unfold keys
  rw [List.mem_map]
  refine ⟨?_, ?_⟩
  · intro named
    obtain ⟨⟨_, shared⟩, stored, rfl⟩ := named
    exact ⟨shared, stored⟩
  · intro holds
    obtain ⟨shared, stored⟩ := holds
    exact ⟨(key, shared), stored, rfl⟩

/-- How a cache is kept that has started out empty. -/
structure WellKept (cache : Cache ι) : Prop where
  bounded : cache.size ≤ cache.maxEntries
  /-- No key has two entries. -/
  distinct : cache.keys.Nodup
  /-- Every entry is of the sort that its key asks for. -/
  suited : ∀ entry ∈ cache.entries,
    entry.2.artifact.kind = entry.1.kind ∧ entry.2.model = entry.1.model
  /-- No entry has an identity that is still to be given. -/
  numbered : ∀ entry ∈ cache.entries, entry.2.identity < cache.nextIdentity

namespace WellKept

theorem empty (options : CompileOptions) (maxEntries : Nat) :
    (Cache.empty options maxEntries : Cache ι).WellKept :=
  ⟨Nat.zero_le _, List.nodup_nil, nofun, nofun⟩

theorem clear {cache : Cache ι} : cache.clear.WellKept :=
  ⟨Nat.zero_le _, List.nodup_nil, nofun, nofun⟩

section Adding

variable {cache : Cache ι} {key : CacheKey ι}

theorem renumber (kept : cache.WellKept) :
    { cache with nextIdentity := cache.nextIdentity + 1 }.WellKept where
  bounded := kept.bounded
  distinct := kept.distinct
  suited := kept.suited
  numbered entry stored := Nat.lt_succ_of_lt (kept.numbered entry stored)

theorem add (kept : cache.WellKept) {shared : Shared ι} (missing : key ∉ cache.keys)
    (room : cache.size < cache.maxEntries) (kind : shared.artifact.kind = key.kind)
    (model : shared.model = key.model) (identity : shared.identity = cache.nextIdentity) :
    { cache with
      entries := cache.entries ++ [(key, shared)]
      nextIdentity := cache.nextIdentity + 1 }.WellKept where
  bounded := by
    unfold size at room ⊢
    rw [List.length_append, List.length_singleton]
    exact room
  distinct := by
    unfold keys at missing ⊢
    rw [List.map_append, List.map_singleton, ← List.concat_eq_append, List.nodup_concat]
    exact ⟨missing, kept.distinct⟩
  suited entry stored := by
    rcases List.mem_append.1 stored with earlier | new
    · exact kept.suited entry earlier
    · obtain rfl := List.mem_singleton.1 new
      exact ⟨kind, model⟩
  numbered entry stored := by
    rcases List.mem_append.1 stored with earlier | new
    · exact Nat.lt_succ_of_lt (kept.numbered entry earlier)
    · obtain rfl := List.mem_singleton.1 new
      exact Nat.lt_succ_of_le (Nat.le_of_eq identity)

end Adding

variable [DecidableEq ι] {cache : Cache ι} {key : CacheKey ι}

/-! ## One request -/

theorem lookup?_of_mem (kept : cache.WellKept) {shared : Shared ι}
    (stored : (key, shared) ∈ cache.entries) : cache.lookup? key = some shared := by
  have first : cache.entries.find? (·.1 = key) = some (key, shared) := by
    cases found : cache.entries.find? (·.1 = key) with
    | none => simpa using List.find?_eq_none.1 found (key, shared) stored
    | some entry =>
      have named : entry.1 = key := by simpa using List.find?_some found
      have same := List.inj_on_of_nodup_map kept.distinct (List.mem_of_find?_eq_some found) stored
        named
      rw [same]
  obtain ⟨kind, model⟩ := kept.suited _ stored
  refine Option.filter_eq_some_iff.2 ⟨?_, ?_⟩
  · rw [first, Option.map_some]
  · exact Bool.and_eq_true_iff.2 ⟨decide_eq_true kind, decide_eq_true model⟩

theorem lookup?_eq_none_iff (kept : cache.WellKept) :
    cache.lookup? key = none ↔ key ∉ cache.keys := by
  rw [mem_keys_iff]
  refine ⟨?_, ?_⟩
  · intro missed present
    obtain ⟨shared, stored⟩ := present
    rw [kept.lookup?_of_mem stored] at missed
    cases missed
  · intro missing
    rw [Option.eq_none_iff_forall_ne_some]
    intro shared found
    exact missing ⟨shared, (lookup?_eq_some found).1⟩

/-- All that a request for an artifact can do to a cache that is well kept: find what is stored
under the key, fail, or hand out a new artifact, which is added if there is room. -/
theorem get_cases (kept : cache.WellKept) (catalog : Catalog ι) (key : CacheKey ι) :
    (∃ shared, (key, shared) ∈ cache.entries ∧ cache.get catalog key = (.ok shared, cache)) ∨
    (∃ error, key ∉ cache.keys ∧ cache.get catalog key = (.error error, cache)) ∨
    (∃ shared, key ∉ cache.keys ∧ shared.artifact.kind = key.kind ∧ shared.model = key.model ∧
      shared.identity = cache.nextIdentity ∧
      cache.get catalog key =
        (.ok shared,
          { cache with
            entries :=
              if cache.size < cache.maxEntries then cache.entries ++ [(key, shared)]
              else cache.entries
            nextIdentity := cache.nextIdentity + 1 })) := by
  rcases Cache.get_cases catalog cache key with ⟨shared, found, got⟩ | ⟨error, missed, -, got⟩ |
    ⟨artifact, missed, compiled, got⟩
  · exact Or.inl ⟨shared, (lookup?_eq_some found).1, got⟩
  · exact Or.inr (Or.inl ⟨error, kept.lookup?_eq_none_iff.1 missed, got⟩)
  · have missing := kept.lookup?_eq_none_iff.1 missed
    have others : cache.entries.filter (·.1 ≠ key) = cache.entries := by
      rw [List.filter_eq_self]
      intro entry stored
      refine decide_eq_true ?_
      intro same
      refine missing (mem_keys_iff.2 ⟨entry.2, ?_⟩)
      rwa [← same]
    refine Or.inr (Or.inr ⟨⟨cache.nextIdentity, key.model, artifact⟩, missing,
      CacheKey.kind_of_compile compiled, rfl, rfl, ?_⟩)
    rw [got]
    unfold insert
    split
    · rw [others]
    · rfl

/-- What is stored under a key is handed out. -/
theorem get_of_mem (kept : cache.WellKept) (catalog : Catalog ι) {shared : Shared ι}
    (stored : (key, shared) ∈ cache.entries) : cache.get catalog key = (.ok shared, cache) := by
  unfold get
  rw [kept.lookup?_of_mem stored]

/-- Only a new artifact for which there is room changes what is stored. -/
theorem entries_get_ne_iff (kept : cache.WellKept) (catalog : Catalog ι) (key : CacheKey ι) :
    (cache.get catalog key).2.entries ≠ cache.entries ↔
      key ∉ cache.keys ∧ (∃ shared, (cache.get catalog key).1 = .ok shared) ∧
        cache.size < cache.maxEntries := by
  rcases kept.get_cases catalog key with ⟨shared, stored, got⟩ | ⟨error, -, got⟩ |
    ⟨shared, missing, -, -, -, got⟩
  · rw [got]
    have present : key ∈ cache.keys := mem_keys_iff.2 ⟨shared, stored⟩
    exact iff_of_false (fun changed => changed rfl) (fun parts => parts.1 present)
  · rw [got]
    refine iff_of_false (fun changed => changed rfl) ?_
    intro parts
    obtain ⟨shared, handedOut⟩ := parts.2.1
    cases handedOut
  · rw [got]
    dsimp only
    split
    · rename_i room
      exact iff_of_true (by simp) ⟨missing, ⟨shared, rfl⟩, room⟩
    · rename_i full
      exact iff_of_false (fun changed => changed rfl) (fun parts => full parts.2.2)

/-- What is stored anew is one entry, with the artifact that is handed out. -/
theorem entries_get_of_ne (kept : cache.WellKept) (catalog : Catalog ι) {shared : Shared ι}
    (handedOut : (cache.get catalog key).1 = .ok shared)
    (changed : (cache.get catalog key).2.entries ≠ cache.entries) :
    (cache.get catalog key).2.entries = cache.entries ++ [(key, shared)] := by
  obtain ⟨missing, -, room⟩ := (kept.entries_get_ne_iff catalog key).1 changed
  rcases kept.get_cases catalog key with ⟨found, stored, got⟩ | ⟨error, -, got⟩ |
    ⟨compiled, -, -, -, -, got⟩
  · exact absurd (mem_keys_iff.2 ⟨found, stored⟩) missing
  · rw [got] at handedOut
    cases handedOut
  · rw [got] at handedOut ⊢
    cases handedOut
    exact if_pos room

/-- An artifact that is compiled anew has the next identity. -/
theorem identity_get_of_not_mem (kept : cache.WellKept) (catalog : Catalog ι) {shared : Shared ι}
    (handedOut : (cache.get catalog key).1 = .ok shared) (missing : key ∉ cache.keys) :
    shared.identity = cache.nextIdentity := by
  rcases kept.get_cases catalog key with ⟨found, stored, -⟩ | ⟨error, -, got⟩ |
    ⟨compiled, -, -, -, identity, got⟩
  · exact absurd (mem_keys_iff.2 ⟨found, stored⟩) missing
  · rw [got] at handedOut
    cases handedOut
  · rw [got] at handedOut
    cases handedOut
    exact identity

/-- No request changes how a cache is kept, nor its bound. -/
theorem serve (kept : cache.WellKept) (catalog : Catalog ι) (request : Request ι) :
    (cache.serve catalog request).2.WellKept ∧
      (cache.serve catalog request).2.maxEntries = cache.maxEntries := by
  cases request with
  | clear => exact ⟨clear, rfl⟩
  | get key =>
    rw [serve_get]
    rcases kept.get_cases catalog key with ⟨shared, -, got⟩ | ⟨error, -, got⟩ |
      ⟨shared, missing, kind, model, identity, got⟩
    · rw [got]
      exact ⟨kept, rfl⟩
    · rw [got]
      exact ⟨kept, rfl⟩
    · rw [got]
      refine ⟨?_, rfl⟩
      dsimp only
      split
      · rename_i room
        exact kept.add missing room kind model identity
      · exact kept.renumber

/-- An entry stays where it is until the cache is cleared. -/
theorem mem_entries_serve (kept : cache.WellKept) (catalog : Catalog ι)
    {entry : CacheKey ι × Shared ι} (stored : entry ∈ cache.entries) {request : Request ι}
    (keeps : request ≠ .clear) : entry ∈ (cache.serve catalog request).2.entries := by
  cases request with
  | clear => exact absurd rfl keeps
  | get key =>
    rw [serve_get]
    rcases kept.get_cases catalog key with ⟨shared, -, got⟩ | ⟨error, -, got⟩ |
      ⟨shared, -, -, -, -, got⟩
    · rw [got]
      exact stored
    · rw [got]
      exact stored
    · rw [got]
      dsimp only
      split
      · exact List.mem_append_left _ stored
      · exact stored

/-- Identities are given in ascending order: an artifact that is handed out has one that was given,
and none is given twice. -/
theorem numbered_serve (kept : cache.WellKept) (catalog : Catalog ι) (request : Request ι) :
    cache.nextIdentity ≤ (cache.serve catalog request).2.nextIdentity ∧
      ∀ shared, (cache.serve catalog request).1 = some (.ok shared) →
        shared.identity < (cache.serve catalog request).2.nextIdentity := by
  cases request with
  | clear => exact ⟨Nat.le_refl _, nofun⟩
  | get key =>
    rw [serve_get]
    rcases kept.get_cases catalog key with ⟨shared, stored, got⟩ | ⟨error, -, got⟩ |
      ⟨shared, -, -, -, identity, got⟩
    · rw [got]
      refine ⟨Nat.le_refl _, ?_⟩
      intro given handedOut
      cases handedOut
      exact kept.numbered _ stored
    · rw [got]
      exact ⟨Nat.le_refl _, nofun⟩
    · rw [got]
      refine ⟨Nat.le_succ _, ?_⟩
      intro given handedOut
      cases handedOut
      exact Nat.lt_succ_of_le (Nat.le_of_eq identity)

/-! ## Runs -/

theorem run (kept : cache.WellKept) (catalog : Catalog ι) (requests : List (Request ι)) :
    (cache.run catalog requests).2.WellKept ∧
      (cache.run catalog requests).2.maxEntries = cache.maxEntries := by
  induction requests generalizing cache with
  | nil => exact ⟨kept, rfl⟩
  | cons request more ih =>
    obtain ⟨stillKept, sameBound⟩ := kept.serve catalog request
    rw [run_cons, ← sameBound]
    exact ih stillKept

theorem mem_entries_run (kept : cache.WellKept) (catalog : Catalog ι)
    {entry : CacheKey ι × Shared ι} (stored : entry ∈ cache.entries)
    {requests : List (Request ι)} (keep : .clear ∉ requests) :
    entry ∈ (cache.run catalog requests).2.entries := by
  induction requests generalizing cache with
  | nil => exact stored
  | cons request more ih =>
    have keeps : request ≠ .clear := (List.ne_of_not_mem_cons keep).symm
    have stillKept := (kept.serve catalog request).1
    rw [run_cons]
    exact ih stillKept (kept.mem_entries_serve catalog stored keeps)
      (List.not_mem_of_not_mem_cons keep)

theorem numbered_run (kept : cache.WellKept) (catalog : Catalog ι) (requests : List (Request ι)) :
    cache.nextIdentity ≤ (cache.run catalog requests).2.nextIdentity ∧
      ∀ shared, some (.ok shared) ∈ (cache.run catalog requests).1 →
        shared.identity < (cache.run catalog requests).2.nextIdentity := by
  induction requests generalizing cache with
  | nil => exact ⟨Nat.le_refl _, nofun⟩
  | cons request more ih =>
    obtain ⟨ascends, answered⟩ := kept.numbered_serve catalog request
    obtain ⟨ascend, rest⟩ := ih (kept.serve catalog request).1
    rw [run_cons]
    refine ⟨Nat.le_trans ascends ascend, ?_⟩
    intro shared handedOut
    rcases List.mem_cons.1 handedOut with first | later
    · exact Nat.lt_of_lt_of_le (answered shared first.symm) ascend
    · exact rest shared later

end WellKept

variable [DecidableEq ι]

/-- After any requests to a cache that was empty:

The cache holds no more artifacts than its bound allows. Clearing drops all of them, and a request
for an artifact changes what is stored exactly if nothing is stored under its key, the artifact
compiles and there is room; then one entry is added, with the artifact that is handed out.

An artifact that is compiled anew is none of those handed out before. From when a request is
answered with an artifact that is then stored, all requests for the same kind, item type and text
are answered with this one, until the cache is cleared. -/
theorem entries_over_run (catalog : Catalog ι) (options : CompileOptions) (maxEntries : Nat)
    (earlier : List (Request ι)) :
    let answers := ((empty options maxEntries : Cache ι).run catalog earlier).1
    let cache := ((empty options maxEntries : Cache ι).run catalog earlier).2
    cache.size ≤ maxEntries ∧
    (cache.serve catalog .clear).2.size = 0 ∧
    ∀ key : CacheKey ι,
      let answer := (cache.get catalog key).1
      let next := (cache.get catalog key).2
      (next.entries ≠ cache.entries ↔
        key ∉ cache.keys ∧ (∃ shared, answer = .ok shared) ∧ cache.size < maxEntries) ∧
      ∀ shared, answer = .ok shared →
        (next.entries ≠ cache.entries → next.entries = cache.entries ++ [(key, shared)]) ∧
        (key ∉ cache.keys → ∀ other, some (.ok other) ∈ answers →
          other.identity ≠ shared.identity) ∧
        ((key, shared) ∈ next.entries → ∀ later, .clear ∉ later →
          ((next.run catalog later).2.get catalog key).1 = .ok shared) := by
  intro answers cache
  have started := WellKept.empty (ι := ι) options maxEntries
  obtain ⟨kept, sameBound⟩ := started.run catalog earlier
  change cache.WellKept at kept
  change cache.maxEntries = maxEntries at sameBound
  rw [← sameBound]
  refine ⟨kept.bounded, rfl, ?_⟩
  intro key answer next
  refine ⟨kept.entries_get_ne_iff catalog key, ?_⟩
  intro shared handedOut
  refine ⟨kept.entries_get_of_ne catalog handedOut, ?_, ?_⟩
  · intro missing other given
    have fresh := kept.identity_get_of_not_mem catalog handedOut missing
    have used := (started.numbered_run catalog earlier).2 other given
    exact Nat.ne_of_lt (fresh ▸ used)
  · intro stored later keep
    have stillKept : next.WellKept := (kept.serve catalog (.get key)).1
    have stillStored := stillKept.mem_entries_run catalog stored keep
    rw [(stillKept.run catalog later).1.get_of_mem catalog stillStored]

/-- A cache with room for one artifact. It has refused a filter, stored an order and been cleared.
Then it stores a filter, which makes it full, and hands the same filter out again after it was asked
for others. -/
theorem entries_over_run_full :
    let earlier : List (Request Sample) :=
      [ .get ⟨.filter, .user, "nome=x".toList⟩, .get ⟨.order, .user, "name".toList⟩, .clear ]
    let later : List (Request Sample) :=
      [ .get ⟨.filter, .user, "age>9".toList⟩, .get ⟨.select, .user, "age>27".toList⟩,
        .get ⟨.order, .user, "age".toList⟩ ]
    let key : CacheKey Sample := ⟨.filter, .user, "age>27".toList⟩
    let cache := ((empty {} 1 : Cache Sample).run Sample.catalog earlier).2
    let next := (cache.get Sample.catalog key).2
    ∃ shared, (cache.get Sample.catalog key).1 = .ok shared ∧ shared.identity = 1 ∧
      next.entries = cache.entries ++ [(key, shared)] ∧ next.size = next.maxEntries ∧
      ((next.run Sample.catalog later).2.get Sample.catalog key).1 = .ok shared := by
  intro earlier later key cache next
  have stores : (cache.get Sample.catalog key).1.toOption.any (fun shared =>
      shared.identity = 1 ∧ next.entries = [(key, shared)]) = true := by
    decide +kernel
  obtain ⟨shared, handedOut, facts⟩ := exists_of_any_toOption stores
  obtain ⟨identity, entries⟩ := of_decide_eq_true facts
  have nothing : cache.entries = [] := by decide +kernel
  have keep : Request.clear ∉ later := by simp [later]
  obtain ⟨-, -, requests⟩ := entries_over_run Sample.catalog {} 1 earlier
  obtain ⟨changes, given⟩ := requests key
  obtain ⟨added, -, again⟩ := given shared handedOut
  have changed : next.entries ≠ cache.entries := by
    rw [entries, nothing]
    exact List.cons_ne_nil _ _
  have stored : (key, shared) ∈ next.entries := by
    rw [entries]
    exact List.mem_singleton_self _
  refine ⟨shared, handedOut, identity, added changed, ?_, again stored later keep⟩
  decide +kernel

end Cache

end TextQuery
