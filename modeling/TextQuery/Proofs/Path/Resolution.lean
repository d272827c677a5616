import TextQuery.Path
import TextQuery.Proofs.Traversal

/-!
Resolution of paths as a judgement. `Resolves catalog schema steps segments hop terminal` says that
the steps, read in a schema, name the segments, cross a collection at the position `hop`, counted
from the first of these steps, and end at the type `terminal`. Main statement: `resolve` succeeds
exactly with the paths that the judgement admits (`resolve_eq_ok_iff`), so it can be read off step
by step what a longer path has in common with the path without its first step.
-/

namespace TextQuery

variable {ι : Type}

/-! ## Layers of types -/

namespace FieldType

variable {type : FieldType ι}

theorem object?_eq_some_iff {schema : ι} :
    type.object? = some schema ↔ type.underlying = .object schema := by
  unfold object?
  split
  · rename_i layers
    rw [layers, Option.some_inj, object.injEq]
  · rename_i other
    exact iff_of_false nofun (other schema)

theorem element?_eq_some_iff {element : FieldType ι} :
    type.element? = some element ↔ type.underlying = .collection element := by
  unfold element?
  split
  · rename_i layers
    rw [layers, Option.some_inj, collection.injEq]
  · rename_i other
    exact iff_of_false nofun (other element)

theorem element?_of_object? {schema : ι} (object : type.object? = some schema) :
    type.element? = none := by
  unfold element?
  rw [object?_eq_some_iff.1 object]

theorem element?_of_isComparable (comparable : type.isComparable = true) :
    type.element? = none := by
  unfold isComparable at comparable
  unfold element?
  split at comparable
  · rename_i layers
    rw [layers]
  · rename_i layers
    rw [layers]
  · cases comparable

end FieldType

namespace PropertyPath

variable {catalog : Catalog ι}

theorem reach?_single {type : FieldType ι} (quantified : Bool) (single : type.element? = none) :
    reach? quantified type = some (type, false) := by
  unfold reach?
  rw [single]

theorem reach?_across {type element : FieldType ι} (collection : type.element? = some element)
    (flat : element.element? = none) : reach? false type = some (element, true) := by
  unfold reach?
  rw [collection]
  simp [flat]

/-- All that a step can do to the type of its field. -/
theorem reach?_cases {quantified crosses : Bool} {type reached : FieldType ι}
    (reaches : reach? quantified type = some (reached, crosses)) :
    (type.element? = none ∧ reached = type ∧ crosses = false) ∨
      (quantified = false ∧ type.element? = some reached ∧ reached.element? = none ∧
        crosses = true) := by
  unfold reach? at reaches
  split at reaches
  · rename_i single
    cases reaches
    exact Or.inl ⟨single, rfl, rfl⟩
  · rename_i element collection
    split at reaches
    · cases reaches
    · rename_i allowed
      cases reaches
      simp only [Bool.or_eq_true, not_or, Bool.not_eq_true, Option.isSome_eq_false_iff,
        Option.isNone_iff_eq_none] at allowed
      exact Or.inr ⟨allowed.1, collection, allowed.2, rfl⟩

/-! ## The judgement -/

/-- The steps, read in a schema, name the segments and end at the type `terminal`; `hop` is the
position among them of the step that crosses a collection. -/
inductive Resolves (catalog : Catalog ι) :
    Schema ι → List Text → List (Segment ι) → Option Nat → FieldType ι → Prop
  /-- The path ends at a field that is no collection. -/
  | last {schema : Schema ι} {step : Text} {index : Nat} {field : FieldDescriptor ι} :
    schema.field? step.trim = some (index, field) → field.type.element? = none →
    Resolves catalog schema [step] [⟨field.name, index, field.type⟩] none field.type
  /-- The path ends at the elements of a collection. -/
  | lastAcross {schema : Schema ι} {step : Text} {index : Nat} {field : FieldDescriptor ι}
      {element : FieldType ι} :
    schema.field? step.trim = some (index, field) → field.type.element? = some element →
    element.element? = none →
    Resolves catalog schema [step] [⟨field.name, index, field.type⟩] (some 0) element
  /-- The path goes on from an object. -/
  | through {schema : Schema ι} {step : Text} {index : Nat} {field : FieldDescriptor ι} {next : ι}
      {steps : List Text} {segments : List (Segment ι)} {hop : Option Nat}
      {terminal : FieldType ι} :
    schema.field? step.trim = some (index, field) → field.type.object? = some next →
    Resolves catalog (catalog next) steps segments hop terminal →
    Resolves catalog schema (step :: steps) (⟨field.name, index, field.type⟩ :: segments)
      (hop.map (· + 1)) terminal
  /-- The path goes on from the objects of a collection, and crosses no other. -/
  | across {schema : Schema ι} {step : Text} {index : Nat} {field : FieldDescriptor ι}
      {element : FieldType ι} {next : ι} {steps : List Text} {segments : List (Segment ι)}
      {terminal : FieldType ι} :
    schema.field? step.trim = some (index, field) → field.type.element? = some element →
    element.object? = some next →
    Resolves catalog (catalog next) steps segments none terminal →
    Resolves catalog schema (step :: steps) (⟨field.name, index, field.type⟩ :: segments)
      (some 0) terminal

theorem Resolves.segments_ne_nil {schema : Schema ι} {steps : List Text}
    {segments : List (Segment ι)} {hop : Option Nat} {terminal : FieldType ι}
    (resolves : Resolves catalog schema steps segments hop terminal) : segments ≠ [] := by
  cases resolves <;> exact List.cons_ne_nil _ _

/-! ## The function and the judgement -/

section Follow

variable {path : PathExpr} {root : Text}

theorem follow_cons_eq_ok_iff {position : Nat} {scope : Option (Schema ι)}
    {quantifier hop : Option Nat} {step : Text} {steps : List Text} {segments : List (Segment ι)}
    {terminal : Option (FieldType ι)} :
    follow catalog path root position scope quantifier (step :: steps) =
        .ok (segments, hop, terminal) ↔
      ∃ schema index field reached crosses rest later,
        scope = some schema ∧ schema.field? step.trim = some (index, field) ∧
        reach? quantifier.isSome field.type = some (reached, crosses) ∧
        follow catalog path root (position + 1) (reached.object?.map catalog)
          (if crosses then some position else quantifier) steps = .ok (rest, hop, later) ∧
        segments = ⟨field.name, index, field.type⟩ :: rest ∧
        terminal = some (later.getD reached) := by
  refine ⟨?_, ?_⟩
  · intro followed
    unfold follow at followed
    split at followed
    · cases followed
    · rename_i index field found
      obtain ⟨schema, inScope, found⟩ := Option.bind_eq_some_iff.1 found
      split at followed
      · cases followed
      · rename_i reached crosses reaches
        obtain ⟨⟨rest, hop', later⟩, restFollowed, same⟩ := bind_eq_ok_iff.1 followed
        cases same
        exact ⟨schema, index, field, reached, crosses, rest, later, inScope, found, reaches,
          restFollowed, rfl, rfl⟩
  · intro parts
    obtain ⟨schema, index, field, reached, crosses, rest, later, rfl, found, reaches,
      restFollowed, rfl, rfl⟩ := parts
    unfold follow
    simp only [Option.bind_some, found, reaches]
    exact bind_eq_ok_iff.2 ⟨_, restFollowed, rfl⟩

/-- A resolution that succeeds follows a judgement. The positions of the judgement are counted from
its first step, and it crosses no collection if one was crossed before. -/
theorem Resolves.of_follow {steps : List Text} {position : Nat} {scope : Option (Schema ι)}
    {quantifier hop : Option Nat} {segments : List (Segment ι)} {terminal : Option (FieldType ι)}
    (nonempty : steps ≠ [])
    (followed : follow catalog path root position scope quantifier steps =
      .ok (segments, hop, terminal)) :
    ∃ schema crossed ending, scope = some schema ∧
      Resolves catalog schema steps segments crossed ending ∧
      (quantifier.isSome = true → crossed = none) ∧
      hop = quantifier.or (crossed.map (position + ·)) ∧ terminal = some ending := by
  induction steps generalizing position scope quantifier segments terminal with
  | nil => exact absurd rfl nonempty
  | cons step steps ih =>
    obtain ⟨schema, index, field, reached, crosses, rest, later, inScope, found, reaches,
      restFollowed, rfl, rfl⟩ := follow_cons_eq_ok_iff.1 followed
    cases steps with
    | nil =>
      -- the last step, after which no type is left to reach
      cases restFollowed
      rcases reach?_cases reaches with ⟨single, rfl, rfl⟩ | ⟨first, collection, flat, rfl⟩
      · exact ⟨schema, none, field.type, inScope, .last found single, fun _ => rfl, by simp, rfl⟩
      · obtain rfl := Option.isNone_iff_eq_none.1 (Option.isSome_eq_false_iff.1 first)
        exact ⟨schema, some 0, reached, inScope, .lastAcross found collection flat, nofun, rfl, rfl⟩
    | cons next steps =>
      obtain ⟨inner, crossed, ending, reachedObject, resolves, crossedOnce, hopEq, rfl⟩ :=
        ih (List.cons_ne_nil _ _) restFollowed
      obtain ⟨object, named, rfl⟩ := Option.map_eq_some_iff.1 reachedObject
      rcases reach?_cases reaches with ⟨single, rfl, rfl⟩ | ⟨first, collection, flat, rfl⟩
      · refine ⟨schema, crossed.map (· + 1), ending, inScope, .through found named resolves, ?_, ?_,
          rfl⟩
        · intro quantified
          rw [crossedOnce quantified]
          rfl
        · rw [hopEq, Option.map_map]
          congr 2
          funext relative
          simp only [Function.comp_apply]
          omega
      · obtain rfl := crossedOnce rfl
        obtain rfl := Option.isNone_iff_eq_none.1 (Option.isSome_eq_false_iff.1 first)
        exact ⟨schema, some 0, ending, inScope, .across found collection named resolves, nofun,
          hopEq, rfl⟩

/-- A judgement is followed by a resolution that succeeds, unless it crosses a second collection. -/
theorem Resolves.follow {schema : Schema ι} {steps : List Text} {segments : List (Segment ι)}
    {crossed : Option Nat} {ending : FieldType ι}
    (resolves : Resolves catalog schema steps segments crossed ending) (position : Nat)
    (quantifier : Option Nat) (once : quantifier.isSome = true → crossed = none) :
    PropertyPath.follow catalog path root position (some schema) quantifier steps =
      .ok (segments, quantifier.or (crossed.map (position + ·)), some ending) := by
  induction resolves generalizing position quantifier with
  | @last schema step index field found single =>
    refine follow_cons_eq_ok_iff.2 ⟨schema, index, field, field.type, false, [], none, rfl, found,
      reach?_single _ single, ?_, rfl, rfl⟩
    simp [PropertyPath.follow]
  | @lastAcross schema step index field element found collection flat =>
    cases quantifier with
    | some _ => cases once rfl
    | none =>
      exact follow_cons_eq_ok_iff.2 ⟨schema, index, field, element, true, [], none, rfl, found,
        reach?_across collection flat, rfl, rfl, rfl⟩
  | @through schema step index field next steps segments hop terminal found object resolves ih =>
    have inner := ih (position + 1) quantifier (by
      intro quantified
      exact Option.map_eq_none_iff.1 (once quantified))
    have single := FieldType.element?_of_object? object
    refine follow_cons_eq_ok_iff.2 ⟨schema, index, field, field.type, false, segments,
      some terminal, rfl, found, reach?_single _ single, ?_, rfl, rfl⟩
    rw [object, Option.map_some, if_neg Bool.false_ne_true, inner, Option.map_map]
    congr 5
    funext relative
    simp only [Function.comp_apply]
    omega
  | @across schema step index field element next steps segments terminal found collection object
      resolves ih =>
    cases quantifier with
    | some _ => cases once rfl
    | none =>
      have inner := ih (position + 1) (some position) fun _ => rfl
      have flat := FieldType.element?_of_object? object
      refine follow_cons_eq_ok_iff.2 ⟨schema, index, field, element, true, segments, some terminal,
        rfl, found, reach?_across collection flat, ?_, rfl, rfl⟩
      rw [object, Option.map_some, if_pos rfl, inner]
      rfl

end Follow

/-! ## Resolution -/

variable {root : Schema ι} {expr : PathExpr}

/-- A path resolves exactly to what the judgement says of its steps. -/
theorem resolve_eq_ok_iff {path : PropertyPath ι} :
    resolve catalog root expr = .ok path ↔
      path.root = root.typeName ∧
        Resolves catalog root expr.steps path.segments path.quantifier path.terminal := by
  refine ⟨?_, ?_⟩
  · intro resolved
    unfold resolve at resolved
    obtain ⟨⟨segments, hop, terminal⟩, followed, resolved⟩ := bind_eq_ok_iff.1 resolved
    cases terminal with
    | none => cases resolved
    | some terminal =>
      cases resolved
      have nonempty : expr.steps ≠ [] := by
        intro empty
        rw [empty] at followed
        cases followed
      obtain ⟨schema, crossed, ending, inScope, resolves, -, hopEq, terminalEq⟩ :=
        Resolves.of_follow nonempty followed
      cases inScope
      cases terminalEq
      rw [Option.none_or] at hopEq
      simp only [Nat.zero_add, Option.map_id'] at hopEq
      exact ⟨rfl, hopEq ▸ resolves⟩
  · intro parts
    obtain ⟨rootEq, resolves⟩ := parts
    unfold resolve
    refine bind_eq_ok_iff.2 ⟨_, resolves.follow 0 none nofun, ?_⟩
    obtain ⟨root', segments, hop, terminal⟩ := path
    cases rootEq
    simp [pure, Except.pure]

theorem resolveSingle_eq_ok_iff {path : PropertyPath ι} :
    resolveSingle catalog root expr = .ok path ↔
      resolve catalog root expr = .ok path ∧ path.quantifier = none ∧
        path.terminal.isComparable = true := by
  unfold resolveSingle
  refine ⟨?_, ?_⟩
  · intro single
    obtain ⟨resolved, read, single⟩ := bind_eq_ok_iff.1 single
    cases crosses : resolved.quantifier with
    | some _ => simp [crosses, throw, throwThe, MonadExceptOf.throw, bind, Except.bind] at single
    | none =>
      cases scalar : resolved.terminal.isComparable with
      | false =>
        simp [crosses, scalar, throw, throwThe, MonadExceptOf.throw, bind, Except.bind] at single
      | true =>
        simp only [crosses, scalar, bind, Except.bind, pure, Except.pure] at single
        cases single
        exact ⟨read, crosses, scalar⟩
  · intro parts
    obtain ⟨read, crosses, scalar⟩ := parts
    refine bind_eq_ok_iff.2 ⟨path, read, ?_⟩
    simp [crosses, scalar, pure, Except.pure]

end PropertyPath

end TextQuery
