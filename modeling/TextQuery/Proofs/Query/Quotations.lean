import TextQuery.Proofs.Clause.Detection
import TextQuery.Proofs.Filter.Faults
import TextQuery.Proofs.Path.Chains
import TextQuery.Proofs.Query.Orderings
import TextQuery.Proofs.Query.Selections
import TextQuery.Samples.Catalog

/-!
What errors quote. Whatever is wrong with a query text, the error shows a part of it as its author
wrote it, or, if a path of it is not supported, that path: its steps trimmed, perhaps spelled as in
the schema, with dots between them. Main statement: `CompileError.quotes_query_text`.
-/

namespace TextQuery

variable {ι : Type}

/-! ## Paths in other spellings -/

/-- A dotted list of visible names that are the trimmed parts between dots of a text, up to case. -/
def Text.Respells (written path : Text) : Prop :=
  ∃ names : List Text, path = Text.join ['.'] names ∧ names ≠ [] ∧
    (∀ name ∈ names, name.isBlank = false) ∧
    names.map Text.lower = (Text.pieces '.' written).map fun step => step.trim.lower

/-- The steps of a path are the trimmed parts between dots of a text, and none of them is empty. -/
structure PathExpr.ReadFrom (path : PathExpr) (written : Text) : Prop where
  visible : [] ∉ path.steps
  steps_eq : path.steps = (Text.pieces '.' written).map Text.trim

namespace PathExpr.ReadFrom

variable {path : PathExpr} {written : Text} (readFrom : path.ReadFrom written)

include readFrom

theorem steps_ne_nil : path.steps ≠ [] := by
  rw [readFrom.steps_eq]
  exact fun none => Text.pieces_ne_nil _ _ (List.map_eq_nil_iff.1 none)

theorem trim_of_mem {step : Text} (isStep : step ∈ path.steps) : step.trim = step := by
  rw [readFrom.steps_eq] at isStep
  obtain ⟨piece, -, rfl⟩ := List.mem_map.1 isStep
  exact piece.trim_trim

theorem isInfix_of_mem {step : Text} (isStep : step ∈ path.steps) : step <:+: written := by
  rw [readFrom.steps_eq] at isStep
  obtain ⟨piece, isPiece, rfl⟩ := List.mem_map.1 isStep
  exact piece.isInfix_trim.trans (Text.isInfix_of_mem_pieces isPiece)

/-- Names that are equal to the steps up to case respell the text. -/
theorem respells {names : List Text} (same : names.map Text.lower = path.steps.map Text.lower) :
    Text.Respells written (Text.join ['.'] names) := by
  refine ⟨names, rfl, ?_, ?_, ?_⟩
  · intro none
    rw [none] at same
    exact readFrom.steps_ne_nil (List.map_eq_nil_iff.1 same.symm)
  · intro name isName
    obtain ⟨step, isStep, equal⟩ := List.mem_map.1 (same ▸ List.mem_map_of_mem isName)
    rw [← Text.isBlank_lower, ← equal, Text.isBlank_lower, ← Bool.not_eq_true,
      Text.isBlank_iff_trim_eq_nil, readFrom.trim_of_mem isStep]
    rintro rfl
    exact readFrom.visible isStep
  · rw [same, readFrom.steps_eq, List.map_map]
    rfl

end PathExpr.ReadFrom

theorem PathExpr.readFrom_of_read {path : PathExpr} {written : Text}
    (given : read written = .ok path) : path.ReadFrom written := by
  obtain ⟨-, visible, steps⟩ := read_eq_ok_iff.1 given
  exact ⟨steps ▸ visible, steps⟩

/-! ## Errors of resolution -/

namespace CompileError

/-- An error quotes a text in which some parts are written as paths: it shows what stands somewhere
in the text, or, if it is about a path, what respells one of those parts. -/
def Quotes (text : Text) (paths : List Text) (error : CompileError) : Prop :=
  match error with
  | unsupportedPath _ _ =>
    ∃ written ∈ paths, written <:+: text ∧ Text.Respells written error.offendingText
  | _ => error.offendingText <:+: text

end CompileError

namespace PropertyPath

variable {catalog : Catalog ι} {root : Schema ι} {expr : PathExpr} {error : CompileError}
  {text written : Text} {paths : List Text}

theorem Describes.lower_names {visits : List (Visit ι)} {path : PropertyPath ι}
    (described : Describes root visits path) :
    (path.segments.map (·.name)).map Text.lower =
      visits.map fun visit => visit.step.trim.lower := by
  rw [described.segments_eq, List.map_map, List.map_map]
  refine List.map_congr_left fun visit _ => ?_
  obtain ⟨name, named, same⟩ := visit.first.named
  rw [Schema.getElem?_names visit.held] at named
  cases named
  exact same

theorem quotes_of_resolve (readFrom : expr.ReadFrom written) (isPath : written ∈ paths)
    (within : written <:+: text) (failed : resolve catalog root expr = .error error) :
    error.Quotes text paths := by
  obtain ⟨before, step, later, -, steps, breaks⟩ :=
    (resolve_eq_error_iff_breaks readFrom.steps_ne_nil).1 failed
  have isStep : step ∈ expr.steps := by
    rw [steps]
    exact List.mem_append_right _ List.mem_cons_self
  have quoted : step.trim <:+: text := by
    rw [readFrom.trim_of_mem isStep]
    exact (readFrom.isInfix_of_mem isStep).trans within
  cases breaks with
  | leftSchemas _ => exact quoted
  | unknown _ _ => exact quoted
  | severalCollections _ _ _ _ => exact ⟨written, isPath, within, readFrom.respells rfl⟩

theorem quotes_of_resolveSingle (readFrom : expr.ReadFrom written) (isPath : written ∈ paths)
    (within : written <:+: text) (failed : resolveSingle catalog root expr = .error error) :
    error.Quotes text paths := by
  have quoted : ∀ {path : PropertyPath ι} {fault : PathFault},
      resolve catalog root expr = .ok path →
      (CompileError.unsupportedPath path.text fault).Quotes text paths := by
    intro path fault resolved
    obtain ⟨visits, -, steps, described⟩ :=
      (resolve_eq_ok_iff_describes readFrom.steps_ne_nil).1 resolved
    refine ⟨written, isPath, within, readFrom.respells ?_⟩
    rw [described.lower_names, ← steps, List.map_map]
    refine List.map_congr_left fun visit member => ?_
    have isStep : visit.step ∈ expr.steps := steps ▸ List.mem_map_of_mem member
    exact congrArg Text.lower (readFrom.trim_of_mem isStep)
  unfold resolveSingle at failed
  cases resolved : resolve catalog root expr with
  | error error' =>
    rw [resolved] at failed
    cases failed
    exact quotes_of_resolve readFrom isPath within resolved
  | ok path =>
    simp only [resolved, bind, Except.bind, throw, throwThe, MonadExceptOf.throw] at failed
    split at failed
    · cases failed
      exact quoted resolved
    · split at failed
      · cases failed
        exact quoted resolved
      · cases failed

end PropertyPath

/-! ## Errors of literals -/

section Literals

variable {options : CompileOptions} {literal text : Text} {paths : List Text}
  {error : CompileError} (within : literal <:+: text)

include within

theorem ScalarType.quotes_of_read {type : ScalarType}
    (failed : type.read options literal = .error error) : error.Quotes text paths := by
  unfold read at failed
  split at failed
  · cases failed
  · cases failed
    split
    · exact within
    · exact within

theorem EnumSchema.quotes_of_read {enumeration : EnumSchema}
    (failed : enumeration.read literal = .error error) : error.Quotes text paths := by
  unfold read at failed
  split at failed
  · cases failed
  · cases failed
    exact within

variable {catalog : Catalog ι} {type : FieldType ι}

theorem FieldType.quotes_of_readValue
    (failed : type.readValue catalog options literal = .error error) : error.Quotes text paths := by
  cases type with
  | scalar type => exact ScalarType.quotes_of_read within failed
  | enum enumeration => exact EnumSchema.quotes_of_read within failed
  | nullable inner =>
    cases failed
    exact within
  | object schema =>
    cases failed
    exact within
  | collection element =>
    cases failed
    exact within

/-- A literal that cannot be read is quoted as it is. -/
theorem Literal.quotes_of_read {operator : Operator}
    (failed : read catalog options type operator literal = .error error) :
    error.Quotes text paths := by
  rw [read_eq] at failed
  split at failed
  · cases failed
    exact within
  · split at failed
    · cases failed
    · split at failed
      · cases failed
      · rw [← errorOf?_eq_some_iff, errorOf?_map, errorOf?_eq_some_iff] at failed
        exact FieldType.quotes_of_readValue within failed

end Literals

/-! ## Errors of whole texts -/

section Whole

variable {catalog : Catalog ι} {options : CompileOptions} {root : Schema ι} {text : Text}
  {error : CompileError}

/-- The parts of a filter text that are paths: what stands to the left of the operators of its
clauses. -/
def Filter.writtenPaths (text : Text) : List Text :=
  (Text.pieces ',' text).filterMap fun piece => (Detected.ofClause piece).toOption.map (·.left)

/-- The part of an order text that is its path: what stands in front of the first `=`. -/
def Order.writtenPath (text : Text) : Text :=
  text.takeWhile (· ≠ '=')

theorem Clause.quotes_of_parseFault? {piece : Text} {fault : ParseError} {paths : List Text}
    (isPiece : piece ∈ Text.pieces ',' text) (found : parseFault? piece = some fault) :
    (CompileError.parse fault).Quotes text paths := by
  have within := Text.isInfix_of_mem_pieces isPiece
  unfold parseFault? at found
  split at found
  · cases found
    exact within
  · rename_i detected divided
    split at found
    · cases found
      exact (Detected.isInfix_of_ofClause divided).1.trans within
    · cases found

theorem Clause.quotes_of_mem_faults {piece : Text} {clause : Clause}
    (isPiece : piece ∈ Text.pieces ',' text) (given : read piece = .ok clause)
    (isFault : error ∈ clause.faults catalog options root) :
    error.Quotes text (Filter.writtenPaths text) := by
  obtain ⟨detected, path, divided, pathRead, rfl⟩ := read_eq_ok_iff.1 given
  have within := Text.isInfix_of_mem_pieces isPiece
  obtain ⟨left, right⟩ := Detected.isInfix_of_ofClause divided
  have isPath : detected.left ∈ Filter.writtenPaths text := by
    refine List.mem_filterMap.2 ⟨piece, isPiece, ?_⟩
    rw [divided]
    rfl
  unfold faults at isFault
  split at isFault
  · rename_i error' failed
    rw [List.mem_singleton.1 isFault]
    exact PropertyPath.quotes_of_resolve (PathExpr.readFrom_of_read pathRead) isPath
      (left.trans within) failed
  · rename_i resolved _
    obtain ⟨literal, isLiteral, failed⟩ := List.mem_filterMap.1 isFault
    exact Literal.quotes_of_read
      (((Text.isInfix_of_mem_pieces isLiteral).trans right).trans within)
      (errorOf?_eq_some_iff.1 failed)

theorem Filter.quotes_of_compile (failed : compile catalog options root text = .error error) :
    error.Quotes text (writtenPaths text) := by
  cases visible : text.isBlank with
  | true =>
    unfold compile at failed
    rw [Clause.readAll_of_blank visible] at failed
    cases failed
  | false =>
    have first := errorOf?_compile catalog options root visible
    rw [errorOf?_eq_some_iff.2 failed] at first
    rcases List.mem_append.1 (List.mem_of_head? first.symm) with isFault | isFault
    · obtain ⟨fault, isParseFault, rfl⟩ := List.mem_map.1 isFault
      obtain ⟨piece, isPiece, found⟩ := List.mem_filterMap.1 isParseFault
      exact Clause.quotes_of_parseFault? isPiece found
    · obtain ⟨clause, isClause, isFault⟩ := List.mem_flatMap.1 isFault
      obtain ⟨piece, isPiece, given⟩ := List.mem_filterMap.1 isClause
      exact Clause.quotes_of_mem_faults isPiece (eq_ok_of_toOption given) isFault

theorem Order.quotes_of_compile (failed : compile catalog options root text = .error error) :
    error.Quotes text [writtenPath text] := by
  unfold compile at failed
  cases given : OrderBy.read text with
  | error fault =>
    rw [given] at failed
    cases failed
    rcases OrderBy.read_error_cases given with rfl | ⟨direction, rfl, within⟩
    · exact text.isInfix_trim
    · exact within
  | ok order =>
    rw [given] at failed
    cases order with
    | none => cases failed
    | some order =>
      obtain ⟨visible, steps⟩ := OrderBy.steps_of_read given
      have within : writtenPath text <:+: text := (List.takeWhile_prefix _).isInfix
      have failed : (PropertyPath.resolveSingle catalog root order.path >>= fun path =>
          Except.ok (some (Order.mk path (order.direction.getD options.defaultDirection)))) =
          .error error := failed
      cases single : PropertyPath.resolveSingle catalog root order.path with
      | ok path =>
        rw [single] at failed
        cases failed
      | error fault =>
        rw [single] at failed
        cases failed
        exact PropertyPath.quotes_of_resolveSingle ⟨visible, steps⟩ List.mem_cons_self within single

theorem Projection.quotes_of_compile (failed : compile root text = .error error) :
    error.Quotes text [] := by
  rw [compile_eq] at failed
  split at failed
  · cases failed
  · rw [← errorOf?_eq_some_iff, errorOf?_map, errorOf?_mapM] at failed
    obtain ⟨name, isName, failed⟩ := List.exists_of_findSome?_eq_some failed
    obtain ⟨-, piece, isPiece, rfl⟩ := mem_selectedNames_iff.1 isName
    have within := piece.isInfix_trim.trans (Text.isInfix_of_mem_pieces isPiece)
    unfold position at failed
    split at failed
    · cases failed
    · cases failed
      exact within

end Whole

namespace CompileError

/-- Every error quotes the text that its author wrote.

If a filter, an order or a selection does not compile, the error shows a run of characters of the
text. Only an unsupported path is shown in another way: as a dotted list of names, which are the
trimmed steps of a path in the text up to case, so there is at least one of them and none is blank.
-/
theorem quotes_query_text (catalog : Catalog ι) (options : CompileOptions) (root : Schema ι)
    (text : Text) (error : CompileError) :
    (Filter.compile catalog options root text = .error error →
      error.Quotes text (Filter.writtenPaths text)) ∧
    (Order.compile catalog options root text = .error error →
      error.Quotes text [Order.writtenPath text]) ∧
    (Projection.compile root text = .error error → error.Quotes text []) :=
  ⟨Filter.quotes_of_compile, Order.quotes_of_compile, Projection.quotes_of_compile⟩

/-- The path of an order across a collection is shown as the schema spells it. A literal that is no
number and a piece without an operator are shown as they stand in their filters, and so are the
direction of an order and an unknown name in a selection. -/
theorem quotes_query_text_person :
    let order := " FRIENDS . Name =desc".toList
    let directed := "name= Up".toList
    let filter := "name=Ann,age>=27| old".toList
    let unread := "name=Ann, age".toList
    let select := "name, Agee ".toList
    let crossing := unsupportedPath "friends.name".toList .crossesCollection
    let direction := parse (.invalidDirection " Up".toList)
    let invalid := invalidLiteral " old".toList "i32".toList
    let malformed := parse (.malformedClause " age".toList)
    let unknown := propertyNotFound "Agee".toList "Person".toList
    Order.compile Sample.catalog {} (Sample.catalog .person) order = .error crossing ∧
    crossing.Quotes order [" FRIENDS . Name ".toList] ∧
    Order.compile Sample.catalog {} (Sample.catalog .person) directed = .error direction ∧
    " Up".toList <:+: directed ∧
    Filter.compile Sample.catalog {} (Sample.catalog .person) filter = .error invalid ∧
    " old".toList <:+: filter ∧
    Filter.compile Sample.catalog {} (Sample.catalog .person) unread = .error malformed ∧
    " age".toList <:+: unread ∧
    Projection.compile (Sample.catalog .person) select = .error unknown ∧
    "Agee".toList <:+: select := by
  intro order directed filter unread select crossing direction invalid malformed unknown
  have quotes := quotes_query_text Sample.catalog {} (Sample.catalog .person)
  have ordered : Order.compile Sample.catalog {} (Sample.catalog .person) order =
      .error crossing :=
    errorOf?_eq_some_iff.1 (by decide +kernel)
  have undirected : Order.compile Sample.catalog {} (Sample.catalog .person) directed =
      .error direction :=
    errorOf?_eq_some_iff.1 (by decide +kernel)
  have filtered : Filter.compile Sample.catalog {} (Sample.catalog .person) filter =
      .error invalid :=
    errorOf?_eq_some_iff.1 (by decide +kernel)
  have unparsed : Filter.compile Sample.catalog {} (Sample.catalog .person) unread =
      .error malformed :=
    errorOf?_eq_some_iff.1 (by decide +kernel)
  have unselected : Projection.compile (Sample.catalog .person) select = .error unknown :=
    errorOf?_eq_some_iff.1 (by decide +kernel)
  exact ⟨ordered, (quotes order crossing).2.1 ordered,
    undirected, (quotes directed direction).2.1 undirected,
    filtered, (quotes filter invalid).1 filtered,
    unparsed, (quotes unread malformed).1 unparsed,
    unselected, (quotes select unknown).2.2 unselected⟩

end CompileError

end TextQuery
