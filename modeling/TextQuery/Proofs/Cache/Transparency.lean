import TextQuery.Proofs.Cache.Runs
import TextQuery.Proofs.Traversal

/-!
A cache cannot be told from none. Every stored artifact is what compiling its key gives, with the
options of the cache (`Sound`), and no request changes that. Main statement: but for the identities
of the artifacts, the answers to requests are those of compiling each of them anew
(`answers_eq_fresh`).
-/

namespace TextQuery.Cache

variable {ι : Type}

/-- What an answer says but for the identity of the artifact. -/
def Answer.content : Answer ι → Option (Except CompileError (ι × Artifact ι)) :=
  Option.map (Except.map fun shared => (shared.model, shared.artifact))

/-- What a request gives without a cache. -/
def Request.fresh (catalog : Catalog ι) (options : CompileOptions) :
    Request ι → Option (Except CompileError (ι × Artifact ι))
  | get ⟨.filter, model, text⟩ =>
    some ((Filter.compile catalog options (catalog model) text).map (model, .filter ·))
  | get ⟨.order, model, text⟩ =>
    some ((Order.compile catalog options (catalog model) text).map (model, .order ·))
  | get ⟨.select, model, text⟩ =>
    some ((Projection.compile (catalog model) text).map (model, .select ·))
  | clear => none

theorem Request.fresh_get (catalog : Catalog ι) (options : CompileOptions) (key : CacheKey ι) :
    (get key).fresh catalog options =
      some ((key.compile catalog options).map fun artifact => (key.model, artifact)) := by
  obtain ⟨kind, model, text⟩ := key
  cases kind <;> exact congrArg some (map_map _ _ _).symm

/-- Every stored artifact is what compiling its key gives. -/
def Sound (catalog : Catalog ι) (cache : Cache ι) : Prop :=
  ∀ entry ∈ cache.entries, entry.1.compile catalog cache.options = .ok entry.2.artifact

variable [DecidableEq ι] {catalog : Catalog ι} {cache : Cache ι}

theorem Sound.insert (sound : cache.Sound catalog) {key : CacheKey ι} {shared : Shared ι}
    (compiled : key.compile catalog cache.options = .ok shared.artifact) :
    (cache.insert key shared).Sound catalog := by
  intro entry member
  rcases mem_entries_insert.1 member with ⟨earlier, -⟩ | rfl
  · exact sound entry earlier
  · exact compiled

/-- What one request keeps of a cache, and what it answers. -/
theorem Sound.serve (sound : cache.Sound catalog) (request : Request ι) :
    (cache.serve catalog request).2.Sound catalog ∧
      (cache.serve catalog request).2.options = cache.options ∧
      (cache.serve catalog request).1.content = request.fresh catalog cache.options := by
  cases request with
  | clear => exact ⟨nofun, rfl, rfl⟩
  | get key =>
    rw [serve_get, Request.fresh_get]
    rcases get_cases catalog cache key with ⟨shared, found, got⟩ | ⟨error, -, failed, got⟩ |
      ⟨artifact, -, compiled, got⟩
    · obtain ⟨stored, -, model⟩ := lookup?_eq_some found
      have compiled : key.compile catalog cache.options = .ok shared.artifact :=
        sound (key, shared) stored
      rw [got, compiled, ← model]
      exact ⟨sound, rfl, rfl⟩
    · rw [got, failed]
      exact ⟨sound, rfl, rfl⟩
    · have renumbered :
          { cache with nextIdentity := cache.nextIdentity + 1 }.Sound catalog := sound
      rw [got, compiled]
      split
      · exact ⟨renumbered.insert compiled, rfl, rfl⟩
      · exact ⟨renumbered, rfl, rfl⟩

theorem Sound.run (sound : cache.Sound catalog) (requests : List (Request ι)) :
    (cache.run catalog requests).1.map Answer.content =
      requests.map (Request.fresh catalog cache.options) := by
  induction requests generalizing cache with
  | nil => rfl
  | cons request more ih =>
    obtain ⟨stillSound, sameOptions, answered⟩ := sound.serve request
    have later := ih stillSound
    rw [sameOptions] at later
    exact List.cons_eq_cons.2 ⟨answered, later⟩

/-- Whatever the options and the bound of a cache, and whatever filters, orders and selections it is
asked for, for whatever item types and with however many failures and clearings among the requests:
each answer is the artifact or the error that compiling the same text anew for the same item type
gives, with the options of the cache. -/
theorem answers_eq_fresh (catalog : Catalog ι) (options : CompileOptions) (maxEntries : Nat)
    (requests : List (Request ι)) :
    ((empty options maxEntries : Cache ι).run catalog requests).1.map Answer.content =
      requests.map (Request.fresh catalog options) := by
  have sound : (empty options maxEntries : Cache ι).Sound catalog := nofun
  exact sound.run requests

end TextQuery.Cache
