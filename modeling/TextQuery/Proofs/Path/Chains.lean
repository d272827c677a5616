import Mathlib.Data.List.Chain
import TextQuery.Proofs.Path.Resolution
import TextQuery.Proofs.Schema.Lookup
import TextQuery.Samples.Catalog

/-!
Resolution as a walk through schemas. The steps of a path that resolves visit a chain of fields,
each in the schema to which the one before leads (`Chain`). Steps that are no such chain have a
first one that breaks it (`Breaks`), and that step decides the error. Main statement:
`PropertyPath.resolves_exactly_chains`.
-/

namespace TextQuery

variable {ι : Type}

/-! ## Chains of fields -/

/-- A step of a path, the schema in which it is looked up, and the field that it finds there: the
first one whose name is equal to it up to case. -/
structure Visit (ι : Type) where
  step : Text
  scope : Schema ι
  index : Nat
  field : FieldDescriptor ι
  held : scope.fields[index]? = some field
  first : FirstNamed scope.names index step.trim

namespace Visit

theorem found (visit : Visit ι) :
    visit.scope.field? visit.step.trim = some (visit.index, visit.field) :=
  Schema.field?_eq_some_iff.2 ⟨visit.held, visit.first⟩

/-- Whether the field is a collection, under any nullable layers. -/
def crosses (visit : Visit ι) : Bool :=
  visit.field.type.element?.isSome

/-- The type of the field, or of its elements. -/
def reached (visit : Visit ι) : FieldType ι :=
  visit.field.type.element?.getD visit.field.type

/-- The schema of the object in the field, or of the objects in the collection. -/
def next? (catalog : Catalog ι) (visit : Visit ι) : Option (Schema ι) :=
  visit.reached.object?.map catalog

/-- What the visit leaves in a resolved path. -/
def segment (visit : Visit ι) : Segment ι :=
  ⟨visit.field.name, visit.index, visit.field.type⟩

end Visit

/-- Each field is found in the schema to which the one before leads, and the first one in `scope`.
At most one field is a collection, and none if one was crossed before, which is what `quantified`
says; its elements are no collections themselves. -/
structure Chain (catalog : Catalog ι) (scope : Option (Schema ι)) (quantified : Bool)
    (visits : List (Visit ι)) : Prop where
  starts : ∀ visit, visits.head? = some visit → scope = some visit.scope
  continues : visits.IsChain fun visit later => visit.next? catalog = some later.scope
  crossesOnce : visits.countP Visit.crosses ≤ if quantified then 0 else 1
  flat : ∀ visit ∈ visits, visit.crosses = true → visit.reached.element? = none

/-- The schema to which the fields lead, if it is one. -/
def scopeAfter (catalog : Catalog ι) (scope : Option (Schema ι)) (visits : List (Visit ι)) :
    Option (Schema ι) :=
  visits.getLast?.elim scope (Visit.next? catalog)

/-- A step breaks a chain: it has no schema to be looked up in, or it finds nothing there, or it
finds a second collection or one of collections. The error names the step or the whole path. -/
inductive Breaks (catalog : Catalog ι) (path : PathExpr) (root : Text) (scope : Option (Schema ι))
    (quantified : Bool) (step : Text) : CompileError → Prop
  | leftSchemas : scope = none →
    Breaks catalog path root scope quantified step (.propertyNotFound step.trim root)
  | unknown {schema : Schema ι} : scope = some schema →
    (∀ name ∈ schema.names, name.lower ≠ step.trim.lower) →
    Breaks catalog path root scope quantified step (.propertyNotFound step.trim root)
  | severalCollections {visit : Visit ι} : scope = some visit.scope → visit.step = step →
    visit.crosses = true → (quantified = true ∨ visit.reached.element?.isSome = true) →
    Breaks catalog path root scope quantified step
      (.unsupportedPath path.text .severalCollections)

section Chains

variable {catalog : Catalog ι} {scope : Option (Schema ι)} {quantified : Bool} {visit : Visit ι}
  {visits : List (Visit ι)}

theorem Chain.nil : Chain catalog scope quantified [] :=
  ⟨nofun, .nil, Nat.zero_le _, nofun⟩

/-- Of a first field and others at most one is a collection: the first one, and then none of the
others is, or one of the others. -/
theorem countP_crosses_cons_le_iff :
    (visit :: visits).countP Visit.crosses ≤ (if quantified then 0 else 1) ↔
      (visit.crosses = true → quantified = false) ∧
        visits.countP Visit.crosses ≤ if quantified || visit.crosses then 0 else 1 := by
  rw [List.countP_cons]
  cases quantified <;> cases visit.crosses <;> simp

theorem chain_cons_iff :
    Chain catalog scope quantified (visit :: visits) ↔
      scope = some visit.scope ∧
      (visit.crosses = true → quantified = false ∧ visit.reached.element? = none) ∧
      Chain catalog (visit.next? catalog) (quantified || visit.crosses) visits := by
  refine ⟨?_, ?_⟩
  · intro chain
    obtain ⟨starts, continues, once, flat⟩ := chain
    obtain ⟨next, continues⟩ := List.isChain_cons.1 continues
    obtain ⟨firstCrosses, once⟩ := countP_crosses_cons_le_iff.1 once
    obtain ⟨flatFirst, flat⟩ := List.forall_mem_cons.1 flat
    exact ⟨starts visit rfl, fun crosses => ⟨firstCrosses crosses, flatFirst crosses⟩, next,
      continues, once, flat⟩
  · intro parts
    obtain ⟨starts, across, next, continues, once, flat⟩ := parts
    refine ⟨?_, List.isChain_cons.2 ⟨next, continues⟩, ?_, ?_⟩
    · intro other same
      cases same
      exact starts
    · exact countP_crosses_cons_le_iff.2 ⟨fun crosses => (across crosses).1, once⟩
    · exact List.forall_mem_cons.2 ⟨fun crosses => (across crosses).2, flat⟩

theorem scopeAfter_cons :
    scopeAfter catalog scope (visit :: visits) =
      scopeAfter catalog (visit.next? catalog) visits := by
  unfold scopeAfter
  cases visits with
  | nil => rfl
  | cons later more => rw [List.getLast?_cons_cons, List.getLast?_cons, Option.elim_some,
      Option.elim_some]

/-- The steps of a path are a chain, or there is a first one that breaks it. -/
theorem exists_chain_or_breaks (catalog : Catalog ι) (path : PathExpr) (root : Text)
    (scope : Option (Schema ι)) (quantified : Bool) (steps : List Text) :
    (∃ visits, Chain catalog scope quantified visits ∧ visits.map (·.step) = steps) ∨
      ∃ before step later error, Chain catalog scope quantified before ∧
        steps = before.map (·.step) ++ step :: later ∧
        Breaks catalog path root (scopeAfter catalog scope before)
          (quantified || before.any Visit.crosses) step error := by
  induction steps generalizing scope quantified with
  | nil => exact Or.inl ⟨[], .nil, rfl⟩
  | cons step rest ih =>
    cases scope with
    | none => exact Or.inr ⟨[], step, rest, _, .nil, rfl, .leftSchemas rfl⟩
    | some schema =>
      cases found : schema.field? step.trim with
      | none =>
        exact Or.inr ⟨[], step, rest, _, .nil, rfl,
          .unknown rfl (Schema.field?_eq_none_iff.1 found)⟩
      | some entry =>
        obtain ⟨held, first⟩ := Schema.field?_eq_some_iff.1 found
        let visit : Visit ι := ⟨step, schema, entry.1, entry.2, held, first⟩
        by_cases several : visit.crosses = true ∧
            (quantified = true ∨ visit.reached.element?.isSome = true)
        · refine Or.inr ⟨[], step, rest, _, .nil, rfl, .severalCollections rfl rfl several.1 ?_⟩
          simpa using several.2
        · have across : visit.crosses = true →
              quantified = false ∧ visit.reached.element? = none := by
            intro crosses
            simpa [crosses] using several
          rcases ih (visit.next? catalog) (quantified || visit.crosses) with
            ⟨visits, chain, rfl⟩ | ⟨before, broken, later, error, chain, rfl, breaks⟩
          · exact Or.inl ⟨visit :: visits, chain_cons_iff.2 ⟨rfl, across, chain⟩, rfl⟩
          · refine Or.inr ⟨visit :: before, broken, later, error,
              chain_cons_iff.2 ⟨rfl, across, chain⟩, rfl, ?_⟩
            rw [scopeAfter_cons, List.any_cons, ← Bool.or_assoc]
            exact breaks

/-! ## Chains and the resolution -/

theorem Visit.reach? (quantifier : Option Nat)
    (across : visit.crosses = true → quantifier = none ∧ visit.reached.element? = none) :
    PropertyPath.reach? quantifier.isSome visit.field.type =
      some (visit.reached, visit.crosses) := by
  unfold crosses reached at *
  cases collection : visit.field.type.element? with
  | none => exact PropertyPath.reach?_single _ collection
  | some element =>
    rw [collection] at across
    obtain ⟨rfl, flat⟩ := across rfl
    exact PropertyPath.reach?_across collection flat

theorem Visit.reach?_eq_none (crosses : visit.crosses = true)
    (several : quantified = true ∨ visit.reached.element?.isSome = true) :
    PropertyPath.reach? quantified visit.field.type = none := by
  obtain ⟨element, collection⟩ := Option.isSome_iff_exists.1 crosses
  unfold reached at several
  rw [collection, Option.getD_some] at several
  unfold PropertyPath.reach?
  rw [collection]
  exact if_pos (Bool.or_eq_true_iff.2 several)

end Chains

namespace PropertyPath

variable {catalog : Catalog ι} {path : PathExpr} {root : Text} {position : Nat}
  {scope : Option (Schema ι)} {quantifier : Option Nat} {visit : Visit ι} {visits : List (Visit ι)}

/-- What one visit does to a resolution. -/
theorem follow_visit (starts : scope = some visit.scope)
    (across : visit.crosses = true → quantifier = none ∧ visit.reached.element? = none)
    (steps : List Text) :
    follow catalog path root position scope quantifier (visit.step :: steps) =
      (follow catalog path root (position + 1) (visit.next? catalog)
        (if visit.crosses then some position else quantifier) steps).map
        fun (segments, hop, terminal) =>
          (visit.segment :: segments, hop, some (terminal.getD visit.reached)) := by
  rw [follow, starts, Option.bind_some, visit.found]
  dsimp only
  rw [visit.reach? quantifier across]
  rfl

/-- The position of the first collection, counted on over one visit. -/
theorem crossed_cons (across : visit.crosses = true → quantifier = none) :
    quantifier.or (((visit :: visits).findIdx? Visit.crosses).map (position + ·)) =
      (if visit.crosses then some position else quantifier).or
        ((visits.findIdx? Visit.crosses).map (position + 1 + ·)) := by
  rw [List.findIdx?_cons]
  by_cases crosses : visit.crosses = true
  · rw [if_pos crosses, if_pos crosses, across crosses]
    rfl
  · rw [if_neg crosses, if_neg crosses, Option.map_map]
    congr 2
    funext index
    exact Nat.add_right_comm position index 1

/-- What a chain of visits does to a resolution. -/
theorem follow_chain (chain : Chain catalog scope quantifier.isSome visits) (steps : List Text) :
    follow catalog path root position scope quantifier (visits.map (·.step) ++ steps) =
      (follow catalog path root (position + visits.length) (scopeAfter catalog scope visits)
        (quantifier.or ((visits.findIdx? Visit.crosses).map (position + ·))) steps).map
        fun (segments, hop, terminal) =>
          (visits.map Visit.segment ++ segments, hop,
            terminal.or (visits.getLast?.map Visit.reached)) := by
  induction visits generalizing position scope quantifier with
  | nil =>
    rw [List.findIdx?_nil, Option.map_none, Option.or_none]
    change follow catalog path root position scope quantifier steps = Except.map _
      (follow catalog path root position scope quantifier steps)
    cases follow catalog path root position scope quantifier steps with
    | error error => rfl
    | ok result => simp [Except.map]
  | cons visit visits ih =>
    obtain ⟨starts, across, chain⟩ := chain_cons_iff.1 chain
    have across : visit.crosses = true → quantifier = none ∧ visit.reached.element? = none := by
      intro crosses
      simpa using across crosses
    have quantified : (if visit.crosses then some position else quantifier).isSome =
        (quantifier.isSome || visit.crosses) := by
      cases crosses : visit.crosses with
      | false => simp
      | true => simp
    rw [← quantified] at chain
    rw [List.map_cons, List.cons_append, follow_visit starts across, ih chain, map_map,
      scopeAfter_cons, crossed_cons fun crosses => (across crosses).1, List.length_cons,
      Nat.add_right_comm position]
    refine congrArg (Except.map · _) (funext fun result => ?_)
    obtain ⟨segments, hop, terminal⟩ := result
    rw [List.getLast?_cons]
    cases terminal with
    | some terminal => rfl
    | none => cases visits.getLast? <;> rfl

theorem follow_breaks {step : Text} {error : CompileError}
    (breaks : Breaks catalog path root scope quantifier.isSome step error) (steps : List Text) :
    follow catalog path root position scope quantifier (step :: steps) = .error error := by
  rw [follow]
  cases breaks with
  | leftSchemas none => rw [none]; rfl
  | unknown inScope others =>
    rw [inScope, Option.bind_some, Schema.field?_eq_none_iff.2 others]
  | @severalCollections visit inScope same crosses several =>
    rw [inScope, ← same, Option.bind_some, visit.found]
    dsimp only
    rw [Visit.reach?_eq_none crosses several]

/-! ## The whole path -/

/-- Where at most one element has a property, the search for the first one finds any. -/
theorem findIdx?_eq_some_iff_of_countP_le_one {α : Type} {p : α → Bool} {elements : List α}
    (once : elements.countP p ≤ 1) {index : Nat} :
    elements.findIdx? p = some index ↔ ∃ a, elements[index]? = some a ∧ p a = true := by
  induction elements generalizing index with
  | nil => exact iff_of_false nofun fun ⟨_, held, _⟩ => nomatch held
  | cons a rest ih =>
    rw [List.findIdx?_cons]
    by_cases holds : p a = true
    · rw [List.countP_cons_of_pos holds] at once
      have none : ∀ b ∈ rest, ¬p b = true := List.countP_eq_zero.1 (by omega)
      rw [if_pos holds]
      cases index with
      | zero => exact iff_of_true rfl ⟨a, rfl, holds⟩
      | succ index =>
        refine iff_of_false nofun fun later => ?_
        obtain ⟨b, held, also⟩ := later
        exact none b (List.mem_of_getElem? held) also
    · rw [List.countP_cons_of_neg holds] at once
      rw [if_neg holds]
      cases index with
      | zero =>
        refine iff_of_false (by simp) fun first => ?_
        obtain ⟨b, held, also⟩ := first
        cases held
        exact holds also
      | succ index => simpa using ih once

variable {schema : Schema ι}

theorem resolve_chain (chain : Chain catalog (some schema) false visits) {last : Visit ι}
    (ends : visits.getLast? = some last) :
    resolve catalog schema ⟨visits.map (·.step)⟩ =
      .ok ⟨schema.typeName, visits.map Visit.segment, visits.findIdx? Visit.crosses,
        last.reached⟩ := by
  have followed : follow catalog ⟨visits.map (·.step)⟩ schema.typeName 0 (some schema) none
      (visits.map (·.step) ++ []) = .ok (visits.map Visit.segment, visits.findIdx? Visit.crosses,
        some last.reached) := by
    rw [follow_chain chain, ends]
    simp [follow, Except.map]
  rw [List.append_nil] at followed
  unfold resolve
  rw [followed]
  rfl

theorem resolve_breaks {step : Text} {later : List Text} {error : CompileError}
    {expr : PathExpr} (chain : Chain catalog (some schema) false visits)
    (steps : expr.steps = visits.map (·.step) ++ step :: later)
    (breaks : Breaks catalog expr schema.typeName (scopeAfter catalog (some schema) visits)
      (visits.any Visit.crosses) step error) :
    resolve catalog schema expr = .error error := by
  have quantified : ((none : Option Nat).or ((visits.findIdx? Visit.crosses).map (0 + ·))).isSome =
      visits.any Visit.crosses := by
    rw [Option.none_or, Option.isSome_map, List.findIdx?_isSome]
  rw [← quantified] at breaks
  unfold resolve
  rw [steps, follow_chain chain, follow_breaks breaks]
  rfl

/-- The path that a chain of visits describes. -/
structure Describes (schema : Schema ι) (visits : List (Visit ι)) (path : PropertyPath ι) :
    Prop where
  root_eq : path.root = schema.typeName
  segments_eq : path.segments = visits.map Visit.segment
  quantifier_iff : ∀ hop, path.quantifier = some hop ↔
    ∃ visit, visits[hop]? = some visit ∧ visit.crosses = true
  terminal_eq : ∃ last, visits.getLast? = some last ∧ path.terminal = last.reached

theorem Describes.unique {path path' : PropertyPath ι} (described : Describes schema visits path)
    (described' : Describes schema visits path') : path = path' := by
  obtain ⟨root, segments, quantifier, terminal⟩ := path
  obtain ⟨root', segments', quantifier', terminal'⟩ := path'
  obtain ⟨rfl, rfl, crosses, last, ends, rfl⟩ := described
  obtain ⟨rfl, rfl, crosses', last', ends', rfl⟩ := described'
  rw [ends] at ends'
  cases ends'
  obtain rfl : quantifier = quantifier' :=
    Option.ext fun hop => (crosses hop).trans (crosses' hop).symm
  rfl

section Whole

variable {expr : PathExpr} (nonempty : expr.steps ≠ [])

include nonempty

/-- A chain of visits describes what its steps resolve to. -/
theorem exists_describes (chain : Chain catalog (some schema) false visits)
    (same : visits.map (·.step) = expr.steps) :
    ∃ path, resolve catalog schema expr = .ok path ∧ Describes schema visits path := by
  obtain ⟨steps⟩ := expr
  cases same
  have visited : visits ≠ [] := by
    intro none
    rw [none] at nonempty
    exact nonempty rfl
  obtain ⟨last, ends⟩ := Option.isSome_iff_exists.1 (List.getLast?_isSome.2 visited)
  exact ⟨_, resolve_chain chain ends, rfl, rfl,
    fun hop => findIdx?_eq_some_iff_of_countP_le_one chain.crossesOnce, last, ends, rfl⟩

/-- All that resolving can come to. -/
theorem resolve_cases (catalog : Catalog ι) (schema : Schema ι) :
    (∃ visits path, Chain catalog (some schema) false visits ∧ visits.map (·.step) = expr.steps ∧
      Describes schema visits path ∧ resolve catalog schema expr = .ok path) ∨
    ∃ before step later error, Chain catalog (some schema) false before ∧
      expr.steps = before.map (·.step) ++ step :: later ∧
      Breaks catalog expr schema.typeName (scopeAfter catalog (some schema) before)
        (before.any Visit.crosses) step error ∧
      resolve catalog schema expr = .error error := by
  rcases exists_chain_or_breaks catalog expr schema.typeName (some schema) false expr.steps with
    ⟨visits, chain, same⟩ | ⟨before, step, later, error, chain, same, breaks⟩
  · obtain ⟨path, resolved, described⟩ := exists_describes nonempty chain same
    exact Or.inl ⟨visits, path, chain, same, described, resolved⟩
  · exact Or.inr ⟨before, step, later, error, chain, same, breaks,
      resolve_breaks chain same breaks⟩

theorem resolve_eq_ok_iff_describes {path : PropertyPath ι} :
    resolve catalog schema expr = .ok path ↔
      ∃ visits, Chain catalog (some schema) false visits ∧ visits.map (·.step) = expr.steps ∧
        Describes schema visits path := by
  refine ⟨?_, ?_⟩
  · intro resolved
    rcases resolve_cases nonempty catalog schema with
      ⟨visits, path', chain, same, described, resolved'⟩ | ⟨_, _, _, error, _, _, _, failed⟩
    · rw [resolved] at resolved'
      cases resolved'
      exact ⟨visits, chain, same, described⟩
    · rw [resolved] at failed
      cases failed
  · intro parts
    obtain ⟨visits, chain, same, described⟩ := parts
    obtain ⟨path', resolved, described'⟩ := exists_describes nonempty chain same
    rw [resolved, described'.unique described]

theorem resolve_eq_error_iff_breaks {error : CompileError} :
    resolve catalog schema expr = .error error ↔
      ∃ before step later, Chain catalog (some schema) false before ∧
        expr.steps = before.map (·.step) ++ step :: later ∧
        Breaks catalog expr schema.typeName (scopeAfter catalog (some schema) before)
          (before.any Visit.crosses) step error := by
  refine ⟨?_, ?_⟩
  · intro failed
    rcases resolve_cases nonempty catalog schema with
      ⟨_, path, _, _, _, resolved⟩ | ⟨before, step, later, error', chain, same, breaks, failed'⟩
    · rw [failed] at resolved
      cases resolved
    · rw [failed] at failed'
      cases failed'
      exact ⟨before, step, later, chain, same, breaks⟩
  · intro broken
    obtain ⟨before, step, later, chain, same, breaks⟩ := broken
    exact resolve_breaks chain same breaks

end Whole

/-- What resolving a path comes to, from its steps.

It succeeds exactly if there is a chain of fields that the steps find, and the path is the one that
the chain describes: a segment for each field, the position of the collection among them, if there
is one, and the type that the last one leads to. Otherwise a first step breaks the chain, and the
error is the one that this step decides. -/
theorem resolves_exactly_chains (catalog : Catalog ι) (schema : Schema ι) (expr : PathExpr)
    (nonempty : expr.steps ≠ []) :
    ((∃ path, resolve catalog schema expr = .ok path) ↔
      ∃ visits, Chain catalog (some schema) false visits ∧ visits.map (·.step) = expr.steps) ∧
    (∀ path, resolve catalog schema expr = .ok path ↔
      ∃ visits, Chain catalog (some schema) false visits ∧ visits.map (·.step) = expr.steps ∧
        Describes schema visits path) ∧
    (∀ path, resolve catalog schema expr = .ok path →
      path.segments.length = expr.steps.length ∧
      ∀ hop, path.quantifier = some hop → hop < path.segments.length) ∧
    ∀ error, resolve catalog schema expr = .error error ↔
      ∃ before step later, Chain catalog (some schema) false before ∧
        expr.steps = before.map (·.step) ++ step :: later ∧
        Breaks catalog expr schema.typeName (scopeAfter catalog (some schema) before)
          (before.any Visit.crosses) step error := by
  refine ⟨⟨?_, ?_⟩, fun _ => resolve_eq_ok_iff_describes nonempty, ?_,
    fun _ => resolve_eq_error_iff_breaks nonempty⟩
  · intro resolves
    obtain ⟨path, resolved⟩ := resolves
    obtain ⟨visits, chain, same, -⟩ := (resolve_eq_ok_iff_describes nonempty).1 resolved
    exact ⟨visits, chain, same⟩
  · intro visited
    obtain ⟨visits, chain, same⟩ := visited
    obtain ⟨path, resolved, -⟩ := exists_describes nonempty chain same
    exact ⟨path, resolved⟩
  · intro path resolved
    obtain ⟨visits, -, same, described⟩ := (resolve_eq_ok_iff_describes nonempty).1 resolved
    rw [described.segments_eq, ← same, List.length_map, List.length_map]
    refine ⟨rfl, fun hop crosses => ?_⟩
    obtain ⟨visit, held, -⟩ := (described.quantifier_iff hop).1 crosses
    exact (List.getElem?_eq_some_iff.1 held).1

/-- The postal codes of places are a chain, and those of the places of nested holders are none: the
places are a second collection. -/
theorem resolves_exactly_chains_holder :
    let once : PathExpr := ⟨["places".toList, " ZIP".toList]⟩
    let twice : PathExpr := ⟨["nested".toList, "places".toList, "zip".toList]⟩
    let error := CompileError.unsupportedPath "nested.places.zip".toList .severalCollections
    (∃ path visits, resolve Sample.catalog (Sample.catalog .holder) once = .ok path ∧
      path.text = "places.zip".toList ∧ path.quantifier = some 0 ∧
      Chain Sample.catalog (some (Sample.catalog .holder)) false visits ∧
      visits.map (·.step) = once.steps ∧
      Describes (Sample.catalog .holder) visits path) ∧
    resolve Sample.catalog (Sample.catalog .holder) twice = .error error ∧
    ∃ before step later, Chain Sample.catalog (some (Sample.catalog .holder)) false before ∧
      twice.steps = before.map (·.step) ++ step :: later ∧
      Breaks Sample.catalog twice "Holder".toList
        (scopeAfter Sample.catalog (some (Sample.catalog .holder)) before)
        (before.any Visit.crosses) step error := by
  intro once twice error
  have resolves : (resolve Sample.catalog (Sample.catalog .holder) once).toOption.any (fun path =>
      path.text = "places.zip".toList ∧ path.quantifier = some 0) = true := by
    decide +kernel
  have failed : resolve Sample.catalog (Sample.catalog .holder) twice = .error error :=
    errorOf?_eq_some_iff.1 (by decide +kernel)
  obtain ⟨path, resolved, facts⟩ := exists_of_any_toOption resolves
  obtain ⟨text, crosses⟩ := of_decide_eq_true facts
  obtain ⟨-, described, -, -⟩ := resolves_exactly_chains Sample.catalog (Sample.catalog .holder)
    once (List.cons_ne_nil _ _)
  obtain ⟨-, -, -, broken⟩ := resolves_exactly_chains Sample.catalog (Sample.catalog .holder)
    twice (List.cons_ne_nil _ _)
  obtain ⟨visits, chain, same, ofVisits⟩ := (described path).1 resolved
  exact ⟨⟨path, visits, resolved, text, crosses, chain, same, ofVisits⟩, failed,
    (broken error).1 failed⟩

end PropertyPath

end TextQuery
