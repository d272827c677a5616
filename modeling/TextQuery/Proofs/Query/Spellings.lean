import TextQuery.Filter.Basic
import TextQuery.Order
import TextQuery.Proofs.Path.Chains
import TextQuery.Proofs.Query.Selections

/-!
Spellings of names. Only case and padding can differ between two spellings of a name, and neither
tells what the name finds. So paths whose steps are spellings of the same names visit the same
fields (`Chain.exists_respelled`), and if one of them breaks off, so does the other, at the same
step (`PropertyPath.resolve_respelled`). Main statement: `spellings_interchangeable`.
-/

namespace TextQuery

variable {ι : Type}

/-! ## Spellings -/

/-- Both texts spell the same name: trimmed, they are equal up to case. -/
def Text.SpellsSame (left right : Text) : Prop :=
  left.trim.lower = right.trim.lower

instance (left right : Text) : Decidable (left.SpellsSame right) :=
  inferInstanceAs (Decidable (left.trim.lower = right.trim.lower))

/-- Both errors are of one kind. If they are about names, these are equal up to case. -/
inductive CompileError.SameKind : CompileError → CompileError → Prop
  | propertyNotFound {name name' root : Text} : name.lower = name'.lower →
    SameKind (.propertyNotFound name root) (.propertyNotFound name' root)
  | unsupportedPath {path path' : Text} {fault : PathFault} :
    SameKind (.unsupportedPath path fault) (.unsupportedPath path' fault)

/-! ## Visits -/

/-- Both visits find the same field, of the same schema. -/
structure Visit.SameField (visit other : Visit ι) : Prop where
  scope_eq : other.scope = visit.scope
  index_eq : other.index = visit.index
  field_eq : other.field = visit.field

namespace Visit.SameField

variable {visit other : Visit ι} (same : visit.SameField other)

include same

theorem crosses_eq : other.crosses = visit.crosses := by
  unfold crosses
  rw [same.field_eq]

theorem reached_eq : other.reached = visit.reached := by
  unfold reached
  rw [same.field_eq]

theorem next?_eq (catalog : Catalog ι) : other.next? catalog = visit.next? catalog := by
  unfold next?
  rw [same.reached_eq]

theorem segment_eq : other.segment = visit.segment := by
  unfold segment
  rw [same.field_eq, same.index_eq]

end Visit.SameField

theorem Visit.exists_respelled (visit : Visit ι) {step : Text} (same : visit.step.SpellsSame step) :
    ∃ other, other.step = step ∧ visit.SameField other :=
  ⟨⟨step, visit.scope, visit.index, visit.field, visit.held, visit.first.of_same_lower same⟩, rfl,
    rfl, rfl, rfl⟩

/-- What is related to two lists in a row is two lists in a row. -/
theorem exists_of_forall₂_append {α β : Type} {r : α → β → Prop} {front rest : List α}
    {all : List β} (related : List.Forall₂ r (front ++ rest) all) :
    ∃ front' rest', List.Forall₂ r front front' ∧ List.Forall₂ r rest rest' ∧
      all = front' ++ rest' :=
  ⟨_, _, (List.forall₂_take_append _ _ _ related.flip).flip,
    (List.forall₂_drop_append _ _ _ related.flip).flip, (List.take_append_drop _ _).symm⟩

section Chains

variable {catalog : Catalog ι} {scope : Option (Schema ι)} {quantified : Bool}
  {visits others : List (Visit ι)}

/-- Other spellings of the steps are a chain of visits to the same fields. -/
theorem Chain.exists_respelled {steps : List Text} (chain : Chain catalog scope quantified visits)
    (same : List.Forall₂ Text.SpellsSame (visits.map (·.step)) steps) :
    ∃ others, Chain catalog scope quantified others ∧ others.map (·.step) = steps ∧
      List.Forall₂ Visit.SameField visits others := by
  induction visits generalizing scope quantified steps with
  | nil =>
    cases same
    exact ⟨[], .nil, rfl, .nil⟩
  | cons visit visits ih =>
    obtain ⟨step, steps, first, more, rfl⟩ := List.forall₂_cons_left_iff.1 same
    obtain ⟨starts, across, chain⟩ := chain_cons_iff.1 chain
    obtain ⟨others, chain, rfl, alike⟩ := ih chain more
    obtain ⟨other, rfl, alikeFirst⟩ := visit.exists_respelled first
    refine ⟨other :: others, chain_cons_iff.2 ?_, rfl, .cons alikeFirst alike⟩
    rw [alikeFirst.scope_eq, alikeFirst.crosses_eq, alikeFirst.reached_eq, alikeFirst.next?_eq]
    exact ⟨starts, across, chain⟩

/-- What depends on the fields only is the same for visits to the same fields. -/
theorem map_of_sameField {β : Type} {f : Visit ι → β}
    (each : ∀ {visit other : Visit ι}, visit.SameField other → f other = f visit)
    (alike : List.Forall₂ Visit.SameField visits others) : others.map f = visits.map f := by
  induction alike with
  | nil => rfl
  | cons first more ih => rw [List.map_cons, List.map_cons, ih, each first]

theorem scopeAfter_of_sameField (alike : List.Forall₂ Visit.SameField visits others) :
    scopeAfter catalog scope others = scopeAfter catalog scope visits := by
  have asMap : ∀ visits : List (Visit ι), scopeAfter catalog scope visits =
      (visits.map (Visit.next? catalog)).getLast?.getD scope := by
    intro visits
    unfold scopeAfter
    rw [List.getLast?_map]
    cases visits.getLast? <;> rfl
  rw [asMap, asMap, map_of_sameField (fun same => same.next?_eq catalog) alike]

theorem any_crosses_of_sameField (alike : List.Forall₂ Visit.SameField visits others) :
    others.any Visit.crosses = visits.any Visit.crosses := by
  have asMap : ∀ visits : List (Visit ι),
      visits.any Visit.crosses = (visits.map Visit.crosses).any id := by
    intro visits
    rw [List.any_map]
    rfl
  rw [asMap, asMap, map_of_sameField (·.crosses_eq) alike]

/-- Another spelling of a step that breaks a chain breaks it too, with an error of the same kind. -/
theorem Breaks.exists_respelled {path : PathExpr} {root step step' : Text}
    {error : CompileError} (breaks : Breaks catalog path root scope quantified step error)
    (path' : PathExpr) (same : step.SpellsSame step') :
    ∃ error', Breaks catalog path' root scope quantified step' error' ∧
      error.SameKind error' := by
  cases breaks with
  | leftSchemas nowhere => exact ⟨_, .leftSchemas nowhere, .propertyNotFound same⟩
  | unknown inScope others =>
    refine ⟨_, .unknown inScope fun name isName => ?_, .propertyNotFound same⟩
    exact same ▸ others name isName
  | @severalCollections visit inScope stepEq crosses several =>
    obtain ⟨other, otherStep, alike⟩ := visit.exists_respelled (stepEq ▸ same)
    rw [← alike.scope_eq] at inScope
    rw [← alike.crosses_eq] at crosses
    rw [← alike.reached_eq] at several
    exact ⟨_, .severalCollections inScope otherStep crosses several, .unsupportedPath⟩

end Chains

/-! ## Paths -/

namespace PropertyPath

variable {catalog : Catalog ι} {schema : Schema ι} {expr expr' : PathExpr}

/-- A path fails at one of its steps: those before it find a chain of fields, and it breaks the
chain. A path without steps fails before any. -/
inductive FailsAt (catalog : Catalog ι) (schema : Schema ι) (expr : PathExpr) :
    Nat → CompileError → Prop
  | step {before : List (Visit ι)} {step : Text} {later : List Text} {error : CompileError} :
    Chain catalog (some schema) false before → expr.steps = before.map (·.step) ++ step :: later →
    Breaks catalog expr schema.typeName (scopeAfter catalog (some schema) before)
      (before.any Visit.crosses) step error →
    FailsAt catalog schema expr before.length error
  | noSteps : expr.steps = [] →
    FailsAt catalog schema expr 0 (.propertyNotFound [] schema.typeName)

theorem resolve_of_failsAt {position : Nat} {error : CompileError}
    (fails : FailsAt catalog schema expr position error) :
    resolve catalog schema expr = .error error := by
  cases fails with
  | step chain steps breaks => exact resolve_breaks chain steps breaks
  | noSteps empty =>
    obtain ⟨steps⟩ := expr
    cases empty
    rfl

/-- What is compiled with two spellings of a path: both resolve to the same path, and then the
outcomes are the same, or both fail at the same step with errors of one kind. -/
inductive SameOutcome {α : Type} (catalog : Catalog ι) (schema : Schema ι) (expr expr' : PathExpr) :
    Except CompileError α → Except CompileError α → Prop
  | resolved {path : PropertyPath ι} {outcome : Except CompileError α} :
    resolve catalog schema expr = .ok path → resolve catalog schema expr' = .ok path →
    SameOutcome catalog schema expr expr' outcome outcome
  | broken {position : Nat} {error error' : CompileError} :
    resolve catalog schema expr = .error error → FailsAt catalog schema expr position error →
    resolve catalog schema expr' = .error error' → FailsAt catalog schema expr' position error' →
    error.SameKind error' → SameOutcome catalog schema expr expr' (.error error) (.error error')

/-- Visits to the same fields describe the same path. -/
theorem Describes.of_sameField {visits others : List (Visit ι)} {path : PropertyPath ι}
    (described : Describes schema visits path)
    (alike : List.Forall₂ Visit.SameField visits others) : Describes schema others path := by
  have crossing : ∀ (visits : List (Visit ι)) (hop : Nat),
      (∃ visit, visits[hop]? = some visit ∧ visit.crosses = true) ↔
        (visits.map Visit.crosses)[hop]? = some true := by
    intro visits hop
    rw [List.getElem?_map, Option.map_eq_some_iff]
  have ending : ∀ visits : List (Visit ι),
      (∃ last, visits.getLast? = some last ∧ path.terminal = last.reached) ↔
        (visits.map Visit.reached).getLast? = some path.terminal := by
    intro visits
    rw [List.getLast?_map, Option.map_eq_some_iff]
    exact exists_congr fun last => and_congr_right fun _ => eq_comm
  obtain ⟨root, segments, quantifier, terminal⟩ := described
  refine ⟨root, ?_, fun hop => ?_, ?_⟩
  · rw [segments, map_of_sameField (·.segment_eq) alike]
  · rw [quantifier hop, crossing, crossing, map_of_sameField (·.crosses_eq) alike]
  · rw [ending, map_of_sameField (·.reached_eq) alike]
    exact (ending visits).1 terminal

variable (catalog schema) in
/-- Other spellings of the steps resolve to the same path, or fail at the same step. -/
theorem resolve_respelled (same : List.Forall₂ Text.SpellsSame expr.steps expr'.steps) :
    (∃ path, resolve catalog schema expr = .ok path ∧ resolve catalog schema expr' = .ok path) ∨
      ∃ position error error', FailsAt catalog schema expr position error ∧
        FailsAt catalog schema expr' position error' ∧ error.SameKind error' := by
  by_cases empty : expr.steps = []
  · rw [empty, List.forall₂_nil_left_iff] at same
    exact Or.inr ⟨0, _, _, .noSteps empty, .noSteps same, .propertyNotFound rfl⟩
  · have nonempty' : expr'.steps ≠ [] := by
      intro empty'
      rw [empty', List.forall₂_nil_right_iff] at same
      exact empty same
    rcases resolve_cases empty catalog schema with
      ⟨visits, path, chain, steps, described, resolved⟩ |
      ⟨before, step, later, error, chain, steps, breaks, -⟩
    · rw [← steps] at same
      obtain ⟨others, chain', steps', alike⟩ := chain.exists_respelled same
      exact Or.inl ⟨path, resolved, (resolve_eq_ok_iff_describes nonempty').2
        ⟨others, chain', steps', described.of_sameField alike⟩⟩
    · -- the steps in front are respelled to a chain, which the next one then breaks in its turn
      rw [steps] at same
      obtain ⟨front, rest, sameFront, sameRest, steps'⟩ := exists_of_forall₂_append same
      obtain ⟨step', later', sameStep, -, rfl⟩ := List.forall₂_cons_left_iff.1 sameRest
      obtain ⟨others, chain', rfl, alike⟩ := chain.exists_respelled sameFront
      obtain ⟨error', breaks', kind⟩ := breaks.exists_respelled expr' sameStep
      rw [← scopeAfter_of_sameField alike, ← any_crosses_of_sameField alike] at breaks'
      refine Or.inr ⟨before.length, error, error', .step chain steps breaks, ?_, kind⟩
      rw [alike.length_eq]
      exact .step chain' steps' breaks'

/-- Whatever is compiled with the path that a path expression resolves to. -/
theorem bind_respelled {α : Type} (same : List.Forall₂ Text.SpellsSame expr.steps expr'.steps)
    (compile : PropertyPath ι → Except CompileError α) :
    SameOutcome catalog schema expr expr' (resolve catalog schema expr >>= compile)
      (resolve catalog schema expr' >>= compile) := by
  rcases resolve_respelled catalog schema same with
    ⟨path, resolved, resolved'⟩ | ⟨position, error, error', fails, fails', kind⟩
  · rw [resolved, resolved']
    exact .resolved resolved resolved'
  · have failed := resolve_of_failsAt fails
    have failed' := resolve_of_failsAt fails'
    rw [failed, failed']
    exact .broken failed fails failed' fails' kind

end PropertyPath

/-! ## Orders -/

namespace Order

variable {catalog : Catalog ι} {options : CompileOptions} {root : Schema ι} {text text' : Text}
  {given given' : OrderBy}

/-- Once an order text is read, what it compiles to depends on its direction and on what its path
resolves to. -/
theorem compile_of_read (read : OrderBy.read text = .ok (some given)) :
    compile catalog options root text =
      (PropertyPath.resolveSingle catalog root given.path).map fun path =>
        some ⟨path, given.direction.getD options.defaultDirection⟩ := by
  unfold compile
  rw [read]
  change (PropertyPath.resolveSingle catalog root given.path >>= fun path => _) = _
  cases PropertyPath.resolveSingle catalog root given.path <;> rfl

theorem compile_respelled (read : OrderBy.read text = .ok (some given))
    (read' : OrderBy.read text' = .ok (some given'))
    (directions : given.direction = given'.direction)
    (same : List.Forall₂ Text.SpellsSame given.path.steps given'.path.steps) :
    PropertyPath.SameOutcome catalog root given.path given'.path
      (compile catalog options root text) (compile catalog options root text') := by
  obtain ⟨rest, single⟩ : ∃ rest : PropertyPath ι → Except CompileError (PropertyPath ι),
      ∀ expr, PropertyPath.resolveSingle catalog root expr =
        PropertyPath.resolve catalog root expr >>= rest := ⟨_, fun _ => rfl⟩
  have continued : ∀ expr : PathExpr, (PropertyPath.resolveSingle catalog root expr).map
      (fun path => some (Order.mk path (given.direction.getD options.defaultDirection))) =
        PropertyPath.resolve catalog root expr >>= fun path => (rest path).map fun path =>
          some ⟨path, given.direction.getD options.defaultDirection⟩ := by
    intro expr
    rw [single]
    cases PropertyPath.resolve catalog root expr <;> rfl
  rw [compile_of_read read, compile_of_read read', ← directions, continued, continued]
  exact PropertyPath.bind_respelled same _

end Order

/-! ## Clauses -/

/-- The steps of a clause are all that its path contributes. -/
theorem Clause.compile_respelled {catalog : Catalog ι} {options : CompileOptions} {root : Schema ι}
    {clause clause' : Clause} (operators : clause.operator = clause'.operator)
    (values : clause.values = clause'.values)
    (same : List.Forall₂ Text.SpellsSame clause.path.steps clause'.path.steps) :
    PropertyPath.SameOutcome catalog root clause.path clause'.path
      (clause.compile catalog options root) (clause'.compile catalog options root) := by
  unfold compile
  rw [← operators, ← values]
  exact PropertyPath.bind_respelled same _

/-! ## Selections -/

namespace Projection

variable {root : Schema ι} {text text' name : Text} {names names' : List Text}

/-- A list of names fails at the first of them that names no field. -/
structure FailsAt (root : Schema ι) (names : List Text) (place : Nat) (error : CompileError) :
    Prop where
  unknown : ∃ name, names[place]? = some name ∧ position root name = .error error
  first : ∀ earlier name, earlier < place → names[earlier]? = some name →
    ∃ index, position root name = .ok index

theorem FailsAt.head {error : CompileError} (unknown : position root name = .error error) :
    FailsAt root (name :: names) 0 error :=
  ⟨⟨name, rfl, unknown⟩, fun _ _ before => absurd before (Nat.not_lt_zero _)⟩

theorem FailsAt.cons {place index : Nat} {error : CompileError}
    (fails : FailsAt root names place error) (found : position root name = .ok index) :
    FailsAt root (name :: names) (place + 1) error := by
  refine ⟨fails.unknown, fun earlier other before held => ?_⟩
  cases earlier with
  | zero =>
    cases held
    exact ⟨index, found⟩
  | succ earlier => exact fails.first earlier other (Nat.lt_of_succ_lt_succ before) held

theorem FailsAt.mapM_eq {place : Nat} {error : CompileError}
    (fails : FailsAt root names place error) : names.mapM (position root) = .error error := by
  induction names generalizing place with
  | nil =>
    obtain ⟨name, held, -⟩ := fails.unknown
    cases held
  | cons name more ih =>
    rw [List.mapM_cons]
    cases place with
    | zero =>
      obtain ⟨name, held, unknown⟩ := fails.unknown
      cases held
      rw [unknown]
      rfl
    | succ place =>
      obtain ⟨index, found⟩ := fails.first 0 name (Nat.succ_pos place) rfl
      rw [found, ih ⟨fails.unknown, fun earlier other before =>
        fails.first (earlier + 1) other (Nat.succ_lt_succ before)⟩]
      rfl

variable (root) in
/-- Two spellings of a name have the same position, or neither has one. -/
theorem position_respelled {name' : Text} (same : name.lower = name'.lower) :
    (∃ index, position root name = .ok index ∧ position root name' = .ok index) ∨
      ∃ error error', position root name = .error error ∧ position root name' = .error error' ∧
        error.SameKind error' := by
  unfold position
  rw [← Schema.field?_congr same]
  cases root.field? name with
  | none => exact Or.inr ⟨_, _, rfl, rfl, .propertyNotFound same⟩
  | some found => exact Or.inl ⟨_, rfl, rfl⟩

variable (root) in
/-- Spellings of the same names have the same positions, or the first unknown one is at the same
place. -/
theorem positions_respelled
    (same : List.Forall₂ (fun name name' : Text => name.lower = name'.lower) names names') :
    (∃ positions, names.mapM (position root) = .ok positions ∧
        names'.mapM (position root) = .ok positions) ∨
      ∃ place error error', FailsAt root names place error ∧ FailsAt root names' place error' ∧
        error.SameKind error' := by
  induction same with
  | nil => exact Or.inl ⟨[], rfl, rfl⟩
  | cons first more ih =>
    rcases position_respelled root first with
      ⟨index, found, found'⟩ | ⟨error, error', unknown, unknown', kind⟩
    · rcases ih with ⟨positions, each, each'⟩ | ⟨place, error, error', fails, fails', kind⟩
      · refine Or.inl ⟨index :: positions, ?_, ?_⟩
        · rw [List.mapM_cons, found, each]
          rfl
        · rw [List.mapM_cons, found', each']
          rfl
      · exact Or.inr ⟨place + 1, error, error', fails.cons found, fails'.cons found', kind⟩
    · exact Or.inr ⟨0, error, error', .head unknown, .head unknown', kind⟩

/-- Selections of the same names are the same, or fail at the same name with errors of one kind. -/
theorem compile_respelled
    (same : List.Forall₂ Text.SpellsSame (selectedNames text) (selectedNames text')) :
    (∃ result, compile root text = .ok result ∧ compile root text' = .ok result) ∨
      ∃ place error error', compile root text = .error error ∧
        FailsAt root (selectedNames text) place error ∧ compile root text' = .error error' ∧
        FailsAt root (selectedNames text') place error' ∧ error.SameKind error' := by
  have trimmed : ∀ text : Text, (selectedNames text).map Text.trim = selectedNames text := by
    intro text
    refine (List.map_congr_left fun name isName => ?_).trans (List.map_id _)
    obtain ⟨-, piece, -, rfl⟩ := mem_selectedNames_iff.1 isName
    exact Text.trim_trim piece
  have lowered : List.Forall₂ (fun name name' : Text => name.lower = name'.lower)
      ((selectedNames text).map Text.trim) ((selectedNames text').map Text.trim) :=
    List.forall₂_map_left_iff.2 (List.forall₂_map_right_iff.2 same)
  rw [trimmed, trimmed] at lowered
  have neither : selectedNames text = [] ↔ selectedNames text' = [] := by
    rw [← List.length_eq_zero_iff, ← List.length_eq_zero_iff, same.length_eq]
  by_cases empty : selectedNames text = []
  · rw [compile_eq, compile_eq, if_pos empty, if_pos (neither.1 empty)]
    exact Or.inl ⟨none, rfl, rfl⟩
  · rw [compile_eq, compile_eq, if_neg empty, if_neg (mt neither.2 empty)]
    rcases positions_respelled root lowered with
      ⟨positions, each, each'⟩ | ⟨place, error, error', fails, fails', kind⟩
    · rw [each, each']
      exact Or.inl ⟨_, rfl, rfl⟩
    · rw [fails.mapM_eq, fails'.mapM_eq]
      exact Or.inr ⟨place, error, error', rfl, fails, rfl, fails', kind⟩

end Projection

/-! ## Interchangeable spellings -/

/-- Names are equal up to case exactly if their lower-case forms are equal, and this is an
equivalence, of which the comparison of ASCII letters is a case. Clauses with the same operator and
literals, orders with the same direction and selections whose names are equal up to case and padding
compile alike: to the same, or not at all because of the same step or name. -/
theorem spellings_interchangeable (catalog : Catalog ι) (root : Schema ι) :
    (∀ left right : Text, left.eqIgnoreCase right = true ↔ left.lower = right.lower) ∧
    (∀ left right : Text, left.isAscii = true → right.isAscii = true →
      (left.eqIgnoreAsciiCase right = true ↔ left.lower = right.lower)) ∧
    Equivalence (fun left right : Text => left.eqIgnoreCase right = true) ∧
    (∀ (options : CompileOptions) (clause clause' : Clause),
      clause.operator = clause'.operator → clause.values = clause'.values →
      List.Forall₂ Text.SpellsSame clause.path.steps clause'.path.steps →
      PropertyPath.SameOutcome catalog root clause.path clause'.path
        (clause.compile catalog options root) (clause'.compile catalog options root)) ∧
    (∀ (options : CompileOptions) (text text' : Text) (given given' : OrderBy),
      OrderBy.read text = .ok (some given) → OrderBy.read text' = .ok (some given') →
      given.direction = given'.direction →
      List.Forall₂ Text.SpellsSame given.path.steps given'.path.steps →
      PropertyPath.SameOutcome catalog root given.path given'.path
        (Order.compile catalog options root text) (Order.compile catalog options root text')) ∧
    ∀ text text' : Text,
      List.Forall₂ Text.SpellsSame (selectedNames text) (selectedNames text') →
      (∃ result, Projection.compile root text = .ok result ∧
          Projection.compile root text' = .ok result) ∨
        ∃ place error error', Projection.compile root text = .error error ∧
          Projection.FailsAt root (selectedNames text) place error ∧
          Projection.compile root text' = .error error' ∧
          Projection.FailsAt root (selectedNames text') place error' ∧ error.SameKind error' := by
  refine ⟨fun left right => Text.eqIgnoreCase_iff, ?_, ?_, ?_, ?_, ?_⟩
  · intro left right ascii ascii'
    rw [← Text.eqIgnoreCase_iff, Text.eqIgnoreCase, ascii, ascii']
    exact Iff.rfl
  · simp only [Text.eqIgnoreCase_iff]
    exact ⟨fun _ => rfl, Eq.symm, Eq.trans⟩
  · exact fun options clause clause' operators values same =>
      clause.compile_respelled operators values same
  · exact fun options text text' given given' read read' directions same =>
      Order.compile_respelled read read' directions same
  · exact fun text text' same => Projection.compile_respelled same

/-- A clause about a field that friends do not have, an order by a field whose name starts with a
Kelvin sign in one spelling, and a selection with a capital sharp s. -/
theorem spellings_interchangeable_unicode :
    PropertyPath.SameOutcome Sample.catalog (Sample.catalog .person)
      ⟨["friends".toList, "nobody".toList]⟩ ⟨[" FRIENDS".toList, "NoBody ".toList]⟩
      (Clause.compile Sample.catalog {} (Sample.catalog .person)
        ⟨⟨["friends".toList, "nobody".toList]⟩, .equals, ["x".toList]⟩)
      (Clause.compile Sample.catalog {} (Sample.catalog .person)
        ⟨⟨[" FRIENDS".toList, "NoBody ".toList]⟩, .equals, ["x".toList]⟩) ∧
    PropertyPath.SameOutcome Sample.catalog (Sample.catalog .uni)
      ⟨["kind".toList]⟩ ⟨["\u212AIND".toList]⟩
      (Order.compile Sample.catalog {} (Sample.catalog .uni) "kind".toList)
      (Order.compile Sample.catalog {} (Sample.catalog .uni) " \u212AIND ".toList) ∧
    Projection.compile (Sample.catalog .uni) "naïve,STRAẞE".toList = .ok (some ⟨[6, 3]⟩) ∧
    Projection.compile (Sample.catalog .uni) " NAÏVE ,, straße".toList = .ok (some ⟨[6, 3]⟩) := by
  obtain ⟨-, -, -, clauses, -, -⟩ :=
    spellings_interchangeable Sample.catalog (Sample.catalog .person)
  obtain ⟨-, -, -, -, orders, selections⟩ :=
    spellings_interchangeable Sample.catalog (Sample.catalog .uni)
  have names : selectedNames "naïve,STRAẞE".toList = ["naïve".toList, "STRAẞE".toList] := by
    decide +kernel
  have names' : selectedNames " NAÏVE ,, straße".toList = ["NAÏVE".toList, "straße".toList] := by
    decide +kernel
  have alike : List.Forall₂ Text.SpellsSame (selectedNames "naïve,STRAẞE".toList)
      (selectedNames " NAÏVE ,, straße".toList) := by
    rw [names, names']
    exact .cons (by decide +kernel) (.cons (by decide +kernel) .nil)
  have selected : Projection.compile (Sample.catalog .uni) "naïve,STRAẞE".toList =
      .ok (some ⟨[6, 3]⟩) :=
    eq_ok_of_toOption (by decide +kernel)
  refine ⟨clauses {} ⟨⟨_⟩, _, _⟩ ⟨⟨_⟩, _, _⟩ rfl rfl ?_,
    orders {} _ _ ⟨_, none⟩ ⟨_, none⟩ rfl rfl rfl ?_, selected, ?_⟩
  · exact .cons (by decide +kernel) (.cons (by decide +kernel) .nil)
  · exact .cons (by decide +kernel) .nil
  · rcases selections _ _ alike with ⟨result, first, second⟩ | ⟨_, error, _, failed, -⟩
    · rw [second, ← first, selected]
    · rw [selected] at failed
      cases failed

end TextQuery
