import Mathlib.Data.List.Forall2

/-!
Computations that can fail, taken apart. A sequence of two succeeds exactly if both of its parts do,
and fails with the first of their errors (`errorOf?_bind`). A traversal succeeds with one result for
each element (`mapM_eq_ok_iff`), and fails with the error of the first element that has one
(`errorOf?_mapM`, `mapM_eq_error_iff`). Where two computations differ only on errors of one kind
(`AgreesUnless`), so do the sequences and the traversals that are made of them. Where the second
succeeds on those errors (`Mends`), a traversal may still fail, with a later error.
-/

namespace TextQuery

variable {ε ε' α β γ : Type}

theorem bind_eq_ok_iff {first : Except ε α} {next : α → Except ε β} {b : β} :
    (first >>= next) = .ok b ↔ ∃ a, first = .ok a ∧ next a = .ok b := by
  cases first with
  | error e => simp [bind, Except.bind]
  | ok a => simp [bind, Except.bind]

theorem map_eq_ok_iff {computation : Except ε α} {f : α → β} {b : β} :
    computation.map f = .ok b ↔ ∃ a, computation = .ok a ∧ f a = b := by
  cases computation <;> simp [Except.map]

theorem map_map (computation : Except ε α) (f : α → β) (g : β → γ) :
    (computation.map f).map g = computation.map (g ∘ f) := by
  cases computation <;> rfl

theorem mapError_eq_ok_iff {computation : Except ε α} {f : ε → ε'} {a : α} :
    computation.mapError f = .ok a ↔ computation = .ok a := by
  cases computation with
  | error e => exact iff_of_false nofun nofun
  | ok b =>
    refine ⟨?_, ?_⟩
    · intro same
      cases same
      rfl
    · intro same
      cases same
      rfl

theorem mapError_eq_error_iff {computation : Except ε α} {f : ε → ε'} {e : ε'} :
    computation.mapError f = .error e ↔ ∃ cause, computation = .error cause ∧ f cause = e := by
  cases computation <;> simp [Except.mapError]

theorem eq_ok_of_toOption {computation : Except ε α} {a : α}
    (result : computation.toOption = some a) : computation = .ok a := by
  cases computation with
  | error e => cases result
  | ok b => exact congrArg Except.ok (Option.some.inj result)

theorem exists_of_any_toOption {computation : Except ε α} {p : α → Bool}
    (tested : computation.toOption.any p = true) : ∃ a, computation = .ok a ∧ p a = true := by
  cases computation with
  | error e => cases tested
  | ok a => exact ⟨a, rfl, tested⟩

/-! ## Results of a traversal -/

section Traversal

variable {f : α → Except ε β} {elements : List α} {results : List β}

theorem mapM_eq_ok_iff :
    elements.mapM f = .ok results ↔ List.Forall₂ (fun a b => f a = .ok b) elements results := by
  induction elements generalizing results with
  | nil =>
    rw [List.forall₂_nil_left_iff]
    refine ⟨?_, ?_⟩
    · intro traversed
      cases traversed
      rfl
    · intro empty
      rw [empty]
      rfl
  | cons a more ih =>
    rw [List.mapM_cons, List.forall₂_cons_left_iff, bind_eq_ok_iff]
    refine ⟨?_, ?_⟩
    · intro parts
      obtain ⟨first, headRead, parts⟩ := parts
      obtain ⟨rest, restRead, same⟩ := bind_eq_ok_iff.1 parts
      cases same
      exact ⟨first, rest, headRead, ih.1 restRead, rfl⟩
    · intro parts
      obtain ⟨first, rest, headRead, restRead, rfl⟩ := parts
      exact ⟨first, headRead, bind_eq_ok_iff.2 ⟨rest, ih.2 restRead, rfl⟩⟩

/-- A traversal with one possible result for each element, under a condition. -/
theorem mapM_eq_ok_iff_of_iff {condition : α → Prop} {result : α → β}
    (each : ∀ a b, f a = .ok b ↔ condition a ∧ result a = b) :
    elements.mapM f = .ok results ↔
      (∀ a ∈ elements, condition a) ∧ elements.map result = results := by
  simp only [mapM_eq_ok_iff, each]
  rw [List.forall₂_and_left, ← List.forall₂_map_left_iff, List.forall₂_eq_eq_eq]

theorem ne_nil_of_mapM (traversed : elements.mapM f = .ok results) (nonempty : elements ≠ []) :
    results ≠ [] := by
  intro empty
  rw [mapM_eq_ok_iff, empty, List.forall₂_nil_right_iff] at traversed
  exact nonempty traversed

theorem exists_of_mem_mapM (traversed : elements.mapM f = .ok results) {b : β}
    (member : b ∈ results) : ∃ a ∈ elements, f a = .ok b := by
  rw [mapM_eq_ok_iff] at traversed
  induction traversed with
  | nil => cases member
  | cons headRead restRead ih =>
    rcases List.mem_cons.1 member with rfl | member
    · exact ⟨_, List.mem_cons_self, headRead⟩
    · obtain ⟨source, within, read⟩ := ih member
      exact ⟨source, List.mem_cons_of_mem _ within, read⟩

theorem exists_mapM_eq_ok_iff :
    (∃ results, elements.mapM f = .ok results) ↔ ∀ a ∈ elements, ∃ b, f a = .ok b := by
  simp only [mapM_eq_ok_iff]
  induction elements with
  | nil => exact iff_of_true ⟨[], .nil⟩ nofun
  | cons a more ih =>
    rw [List.forall_mem_cons, ← ih]
    refine ⟨?_, ?_⟩
    · intro traversed
      obtain ⟨results, traversed⟩ := traversed
      cases traversed with
      | cons headRead restRead => exact ⟨⟨_, headRead⟩, _, restRead⟩
    · intro parts
      obtain ⟨⟨first, headRead⟩, rest, restRead⟩ := parts
      exact ⟨first :: rest, .cons headRead restRead⟩

theorem filterMap_toOption_of_mapM (traversed : elements.mapM f = .ok results) :
    elements.filterMap (fun a => (f a).toOption) = results := by
  rw [mapM_eq_ok_iff] at traversed
  induction traversed with
  | nil => rfl
  | cons headRead restRead ih =>
    rw [List.filterMap_cons, headRead, ih]
    rfl

end Traversal

/-! ## First errors -/

/-- The error of a computation that fails. -/
def errorOf? : Except ε α → Option ε
  | .error e => some e
  | .ok _ => none

@[simp] theorem errorOf?_ok (a : α) : errorOf? (.ok a : Except ε α) = none :=
  rfl

theorem errorOf?_eq_some_iff {computation : Except ε α} {e : ε} :
    errorOf? computation = some e ↔ computation = .error e := by
  cases computation <;> simp [errorOf?]

theorem errorOf?_map (computation : Except ε α) (f : α → β) :
    errorOf? (computation.map f) = errorOf? computation := by
  cases computation <;> rfl

theorem errorOf?_mapError (computation : Except ε α) (f : ε → ε') :
    errorOf? (computation.mapError f) = (errorOf? computation).map f := by
  cases computation <;> rfl

/-- A sequence of two fails with the error of the first, or else of the second. -/
theorem errorOf?_bind (first : Except ε α) (next : α → Except ε β) :
    errorOf? (first >>= next) =
      (errorOf? first).or (first.toOption.bind fun a => errorOf? (next a)) := by
  cases first <;> rfl

theorem errorOf?_bind_pure (computation : Except ε α) (f : α → β) :
    errorOf? (computation >>= fun a => pure (f a)) = errorOf? computation := by
  cases computation <;> rfl

/-- A traversal fails with the error of the first element that has one. -/
theorem errorOf?_mapM (f : α → Except ε β) (elements : List α) :
    errorOf? (elements.mapM f) = elements.findSome? fun a => errorOf? (f a) := by
  induction elements with
  | nil => rfl
  | cons a more ih =>
    rw [List.mapM_cons, errorOf?_bind, List.findSome?_cons, ← ih]
    cases f a with
    | error e => rfl
    | ok b => cases more.mapM f <;> rfl

/-- The element with which a traversal fails is the first that has no result. -/
theorem mapM_eq_error_iff {f : α → Except ε β} {elements : List α} {e : ε} :
    elements.mapM f = .error e ↔
      ∃ before a after, elements = before ++ a :: after ∧
        (∀ earlier ∈ before, ∃ b, f earlier = .ok b) ∧ f a = .error e := by
  have succeeds : ∀ a, errorOf? (f a) = none ↔ ∃ b, f a = .ok b := by
    intro a
    cases f a with
    | error e => exact iff_of_false nofun nofun
    | ok b => exact iff_of_true rfl ⟨b, rfl⟩
  rw [← errorOf?_eq_some_iff, errorOf?_mapM, List.findSome?_eq_some_iff]
  simp only [succeeds, errorOf?_eq_some_iff]
  refine exists_congr fun before => exists_congr fun a => exists_congr fun after => ?_
  exact and_congr_right fun _ => and_comm

/-! ## Computations that agree unless one fails -/

/-- A computation has the same outcome as another one, unless that fails with an error of a certain
kind. -/
def AgreesUnless (kind : ε → Prop) (old new : Except ε α) : Prop :=
  new = old ∨ ∃ e, old = .error e ∧ kind e

namespace AgreesUnless

variable {kind : ε → Prop} {old new : Except ε α}

theorem refl (computation : Except ε α) : AgreesUnless kind computation computation :=
  Or.inl rfl

theorem eq_ok (agrees : AgreesUnless kind old new) {a : α} (succeeds : old = .ok a) :
    new = .ok a := by
  rcases agrees with same | ⟨e, failed, -⟩
  · rw [same, succeeds]
  · rw [succeeds] at failed
    cases failed

theorem bind {oldNext newNext : α → Except ε β} (first : AgreesUnless kind old new)
    (next : ∀ a, AgreesUnless kind (oldNext a) (newNext a)) :
    AgreesUnless kind (old >>= oldNext) (new >>= newNext) := by
  rcases first with rfl | ⟨e, rfl, isKind⟩
  · cases new with
    | error e => exact .refl _
    | ok a => exact next a
  · exact Or.inr ⟨e, rfl, isKind⟩

theorem map (agrees : AgreesUnless kind old new) (f : α → β) :
    AgreesUnless kind (old.map f) (new.map f) := by
  rcases agrees with rfl | ⟨e, rfl, isKind⟩
  · exact .refl _
  · exact Or.inr ⟨e, rfl, isKind⟩

theorem mapM {f g : α → Except ε β} (each : ∀ a, AgreesUnless kind (f a) (g a))
    (elements : List α) : AgreesUnless kind (elements.mapM f) (elements.mapM g) := by
  induction elements with
  | nil => exact .refl _
  | cons a more ih =>
    rw [List.mapM_cons, List.mapM_cons]
    exact (each a).bind fun b => ih.bind fun rest => .refl _

end AgreesUnless

/-- A computation has the same outcome as another one, except that it may succeed where that fails
with an error of a certain kind. -/
def Mends (kind : ε → Prop) (old new : Except ε α) : Prop :=
  new = old ∨ ∃ e, old = .error e ∧ kind e ∧ ∃ a, new = .ok a

namespace Mends

variable {kind : ε → Prop} {old new : Except ε α}

theorem refl (computation : Except ε α) : Mends kind computation computation :=
  Or.inl rfl

theorem mono {wider : ε → Prop} (mends : Mends kind old new) (implies : ∀ e, kind e → wider e) :
    Mends wider old new := by
  rcases mends with same | ⟨e, failed, isKind, succeeds⟩
  · exact Or.inl same
  · exact Or.inr ⟨e, failed, implies e isKind, succeeds⟩

theorem map (mends : Mends kind old new) (f : α → β) : Mends kind (old.map f) (new.map f) := by
  rcases mends with rfl | ⟨e, rfl, isKind, a, rfl⟩
  · exact .refl _
  · exact Or.inr ⟨e, rfl, isKind, f a, rfl⟩

theorem agreesUnless (mends : Mends kind old new) : AgreesUnless kind old new := by
  rcases mends with same | ⟨e, failed, isKind, -⟩
  · exact Or.inl same
  · exact Or.inr ⟨e, failed, isKind⟩

/-- The errors of the elements that are left are among the earlier ones, in their order, and the
errors that are gone are of the kind. -/
theorem filterMap_errorOf? {f g : α → Except ε β} (each : ∀ a, Mends kind (f a) (g a))
    (elements : List α) :
    (elements.filterMap fun a => errorOf? (g a)).Sublist
        (elements.filterMap fun a => errorOf? (f a)) ∧
      ∀ e ∈ elements.filterMap fun a => errorOf? (f a),
        e ∈ (elements.filterMap fun a => errorOf? (g a)) ∨ kind e := by
  refine ⟨?_, ?_⟩
  · induction elements with
    | nil => exact .slnil
    | cons a more ih =>
      rw [List.filterMap_cons, List.filterMap_cons]
      rcases each a with same | ⟨e, failed, -, b, succeeds⟩
      · rw [same]
        cases f a with
        | error e => exact ih.cons_cons e
        | ok b => exact ih
      · rw [failed, succeeds]
        exact ih.cons e
  · intro e member
    obtain ⟨a, within, failed⟩ := List.mem_filterMap.1 member
    rcases each a with same | ⟨e', failed', isKind, -⟩
    · exact Or.inl (List.mem_filterMap.2 ⟨a, within, same ▸ failed⟩)
    · rw [failed'] at failed
      cases failed
      exact Or.inr isKind

end Mends

end TextQuery
