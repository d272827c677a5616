import TextQuery.Proofs.Query.Selections
import TextQuery.Samples.Catalog

/-!
What a selection compiles to, told by its pieces. Blank pieces do not count. Of the others each has
to find a field, and the leftmost one that finds none is reported, whatever stands behind it. Fields
are kept in the order in which they are mentioned first, by position and not by spelling
(`Projection.foldl_add_eq_eraseDups`). Main statement: `Projection.compiles_first_mentions`.
-/

namespace TextQuery

variable {ι : Type}

/-- The pieces of a selection that are not blank. -/
def visiblePieces (text : Text) : List Text :=
  (Text.pieces ',' text).filter fun piece => !piece.isBlank

theorem visiblePieces_eq_nil_iff {text : Text} :
    visiblePieces text = [] ↔ ∀ piece ∈ Text.pieces ',' text, piece.isBlank = true := by
  unfold visiblePieces
  rw [List.filter_eq_nil_iff]
  refine forall₂_congr fun piece _ => ?_
  rw [Bool.not_eq_true', Bool.not_eq_false]

/-- A piece of a selection finds the field at a position, with or without white space around it. -/
def Schema.Finds (root : Schema ι) (piece : Text) (index : Nat) : Prop :=
  ∃ field, root.field? piece.trim = some (index, field)

theorem Schema.Finds.unique {root : Schema ι} {piece : Text} {index index' : Nat}
    (finds : root.Finds piece index) (finds' : root.Finds piece index') : index = index' := by
  obtain ⟨field, found⟩ := finds
  obtain ⟨field', found'⟩ := finds'
  rw [found] at found'
  cases found'
  rfl

theorem Schema.mem_iff_of_finds {root : Schema ι} {pieces : List Text} {positions : List Nat}
    (finds : List.Forall₂ root.Finds pieces positions) {index : Nat} :
    index ∈ positions ↔ ∃ piece ∈ pieces, root.Finds piece index := by
  induction finds with
  | nil => exact iff_of_false List.not_mem_nil nofun
  | @cons piece position pieces positions first more ih =>
    rw [List.mem_cons, ih, List.exists_mem_cons_iff]
    refine or_congr_left ⟨?_, fun finds => finds.unique first⟩
    rintro rfl
    exact first

namespace Projection

/-! ## First mentions -/

/-- Positions that are added one after the other stand where they are mentioned first, behind those
that are there already. -/
theorem foldl_add_eq_append (positions fields : List Nat) :
    positions.foldl add fields =
      fields ++ (positions.filter fun index => index ∉ fields).eraseDups := by
  induction positions generalizing fields with
  | nil => exact (List.append_nil fields).symm
  | cons first more ih =>
    rw [List.foldl_cons, ih]
    by_cases held : first ∈ fields
    · have kept : add fields first = fields := if_pos held
      rw [kept, List.filter_cons_of_neg (by simpa using held)]
    · have added : add fields first = fields ++ [first] := if_neg held
      have others : (more.filter fun index => index ∉ fields ++ [first]) =
          (more.filter fun index => index ∉ fields).filter fun index => !index == first := by
        rw [List.filter_filter]
        refine List.filter_congr fun index _ => ?_
        rw [Bool.eq_iff_iff]
        simp [and_comm]
      rw [added, List.filter_cons_of_pos (by simpa using held), List.eraseDups_cons, others,
        List.append_assoc]
      rfl

theorem foldl_add_eq_eraseDups (positions : List Nat) :
    positions.foldl add [] = positions.eraseDups := by
  have all : (positions.filter fun index => index ∉ ([] : List Nat)) = positions :=
    List.filter_eq_self.2 fun _ _ => rfl
  rw [foldl_add_eq_append, all, List.nil_append]

/-! ## Pieces -/

section Compiling

variable {root : Schema ι} {text : Text}

theorem position_eq_error_iff {name : Text} {error : CompileError} :
    position root name = .error error ↔
      root.field? name = none ∧ error = .propertyNotFound name root.typeName := by
  unfold position
  split
  · rename_i found
    rw [found]
    exact iff_of_false nofun nofun
  · rename_i missing
    rw [missing, Except.error.injEq, eq_comm]
    exact (and_iff_right rfl).symm

theorem compile_eq_visible :
    compile root text =
      if visiblePieces text = [] then .ok none
      else ((visiblePieces text).mapM fun piece => position root piece.trim).map fun positions =>
        some ⟨positions.eraseDups⟩ := by
  rw [compile_eq, selectedNames_eq, List.mapM_map]
  simp only [List.map_eq_nil_iff, foldl_add_eq_eraseDups]
  rfl

theorem compile_eq_none_iff :
    compile root text = .ok none ↔ ∀ piece ∈ Text.pieces ',' text, piece.isBlank = true := by
  rw [compile_eq_visible, ← visiblePieces_eq_nil_iff]
  split
  · rename_i blank
    exact iff_of_true rfl blank
  · rename_i visible
    refine iff_of_false (fun compiled => ?_) visible
    obtain ⟨positions, -, same⟩ := map_eq_ok_iff.1 compiled
    cases same

theorem compile_eq_some_iff_finds {projection : Projection} :
    compile root text = .ok (some projection) ↔
      visiblePieces text ≠ [] ∧ ∃ positions,
        List.Forall₂ root.Finds (visiblePieces text) positions ∧
        projection.fields = positions.eraseDups := by
  rw [compile_eq_visible]
  split
  · rename_i blank
    exact iff_of_false nofun fun parts => parts.1 blank
  · rename_i visible
    simp only [map_eq_ok_iff, mapM_eq_ok_iff, position_eq_ok_iff]
    rw [and_iff_right visible]
    refine exists_congr fun positions => and_congr_right fun _ => ?_
    rw [Option.some_inj, eq_comm]
    cases projection
    exact mk.injEq _ _ ▸ Iff.rfl

theorem compile_eq_error_iff_traversal {error : CompileError} :
    compile root text = .error error ↔
      (visiblePieces text).mapM (fun piece => position root piece.trim) = .error error := by
  rw [compile_eq_visible]
  split
  · rename_i blank
    rw [blank]
    exact iff_of_false nofun nofun
  · rw [← errorOf?_eq_some_iff, errorOf?_map, errorOf?_eq_some_iff]

/-- A selection fails with its leftmost visible piece that finds no field. -/
theorem compile_eq_error_iff {error : CompileError} :
    compile root text = .error error ↔
      ∃ before piece after, visiblePieces text = before ++ piece :: after ∧
        (∀ earlier ∈ before, ∃ index, root.Finds earlier index) ∧
        root.field? piece.trim = none ∧
        error = .propertyNotFound piece.trim root.typeName := by
  rw [compile_eq_error_iff_traversal, mapM_eq_error_iff]
  simp only [position_eq_error_iff, position_eq_ok_iff]
  rfl

theorem exists_compile_eq_error_iff :
    (∃ error, compile root text = .error error) ↔
      ∃ piece ∈ visiblePieces text, root.field? piece.trim = none := by
  refine ⟨?_, ?_⟩
  · rintro ⟨error, failed⟩
    obtain ⟨before, piece, after, parted, -, missing, -⟩ := compile_eq_error_iff.1 failed
    refine ⟨piece, ?_, missing⟩
    rw [parted]
    exact List.mem_append_right _ List.mem_cons_self
  · rintro ⟨piece, isPiece, missing⟩
    simp only [compile_eq_error_iff_traversal]
    cases traversed : (visiblePieces text).mapM fun piece => position root piece.trim with
    | error error => exact ⟨error, rfl⟩
    | ok positions =>
      obtain ⟨index, positioned⟩ := exists_mapM_eq_ok_iff.1 ⟨positions, traversed⟩ piece isPiece
      obtain ⟨field, found⟩ := position_eq_ok_iff.1 positioned
      rw [missing] at found
      cases found

end Compiling

/-! ## Fields -/

section Compiled

variable {root : Schema ι} {text : Text} {projection : Projection}
  (compiled : compile root text = .ok (some projection))

include compiled

/-- The selected fields are those that the visible pieces find. -/
theorem mem_fields_iff {index : Nat} :
    index ∈ projection.fields ↔ ∃ piece ∈ visiblePieces text, root.Finds piece index := by
  obtain ⟨-, positions, finds, fields⟩ := compile_eq_some_iff_finds.1 compiled
  rw [fields, List.mem_eraseDups, Schema.mem_iff_of_finds finds]

/-- No selected position is past the fields of the schema, so every one of them has a name. -/
theorem forall₂_fieldNames :
    List.Forall₂ (fun index name => ∃ field, root.fields[index]? = some field ∧ field.name = name)
      projection.fields (projection.fieldNames root) := by
  have held : ∀ index ∈ projection.fields, ∃ field, root.fields[index]? = some field := by
    intro index member
    obtain ⟨field, held, -⟩ := field_of_mem_fields compiled member
    exact ⟨field, held⟩
  unfold fieldNames
  generalize projection.fields = fields at held ⊢
  induction fields with
  | nil => exact .nil
  | cons index more ih =>
    obtain ⟨⟨field, here⟩, others⟩ := List.forall_mem_cons.1 held
    rw [List.filterMap_cons, here]
    exact .cons ⟨field, here, rfl⟩ (ih others)

end Compiled

/-- A selection asks for no projection exactly if all its pieces are blank. Otherwise it fails
exactly if a visible piece finds no field, with the leftmost such piece. Otherwise it compiles to
the positions that its visible pieces find, each where it is mentioned first, so each once; they are
the positions of fields, which all have their names in the projection. -/
theorem compiles_first_mentions (root : Schema ι) (text : Text) :
    (compile root text = .ok none ↔ ∀ piece ∈ Text.pieces ',' text, piece.isBlank = true) ∧
    ((∃ error, compile root text = .error error) ↔
      ∃ piece ∈ visiblePieces text, root.field? piece.trim = none) ∧
    (∀ error, compile root text = .error error ↔
      ∃ before piece after, visiblePieces text = before ++ piece :: after ∧
        (∀ earlier ∈ before, ∃ index, root.Finds earlier index) ∧
        root.field? piece.trim = none ∧
        error = .propertyNotFound piece.trim root.typeName) ∧
    (∀ projection, compile root text = .ok (some projection) ↔
      visiblePieces text ≠ [] ∧ ∃ positions,
        List.Forall₂ root.Finds (visiblePieces text) positions ∧
        projection.fields = positions.eraseDups) ∧
    ∀ projection, compile root text = .ok (some projection) →
      projection.fields.Nodup ∧
      (∀ index ∈ projection.fields, index < root.fields.length) ∧
      (∀ index, index ∈ projection.fields ↔
        ∃ piece ∈ visiblePieces text, root.Finds piece index) ∧
      List.Forall₂ (fun index name => ∃ field, root.fields[index]? = some field ∧ field.name = name)
        projection.fields (projection.fieldNames root) := by
  refine ⟨compile_eq_none_iff, exists_compile_eq_error_iff, fun _ => compile_eq_error_iff,
    fun _ => compile_eq_some_iff_finds, ?_⟩
  intro projection compiled
  refine ⟨nodup_fields compiled, ?_, fun _ => mem_fields_iff compiled, forall₂_fieldNames compiled⟩
  intro index member
  obtain ⟨field, held, -⟩ := field_of_mem_fields compiled member
  exact (List.getElem?_eq_some_iff.1 held).1

/-- Five pieces in several spellings, one of them blank, that find two fields, of which one shadows
another one; and a name that no field has, between two that are found and one that is not. -/
theorem compiles_first_mentions_shadowed :
    compile (Sample.catalog .uni) " naïve ,, NAME,name , NAÏVE".toList = .ok (some ⟨[6, 0]⟩) ∧
    (∀ index ∈ [6, 0], index < (Sample.catalog .uni).fields.length) ∧
    compile (Sample.catalog .uni) "name, ,KIND, nome,other".toList =
      .error (.propertyNotFound "nome".toList "Uni".toList) := by
  obtain ⟨-, -, -, selects, keeps⟩ :=
    compiles_first_mentions (Sample.catalog .uni) " naïve ,, NAME,name , NAÏVE".toList
  obtain ⟨-, -, fails, -, -⟩ :=
    compiles_first_mentions (Sample.catalog .uni) "name, ,KIND, nome,other".toList
  have finds : ∀ {piece : Text} {index : Nat},
      ((Sample.catalog .uni).field? piece.trim).map Prod.fst = some index →
      (Sample.catalog .uni).Finds piece index := by
    intro piece index shown
    obtain ⟨⟨position, field⟩, found, same⟩ := Option.map_eq_some_iff.1 shown
    cases same
    exact ⟨field, found⟩
  have pieces : visiblePieces " naïve ,, NAME,name , NAÏVE".toList =
      [" naïve ".toList, " NAME".toList, "name ".toList, " NAÏVE".toList] := by decide +kernel
  have pieces' : visiblePieces "name, ,KIND, nome,other".toList =
      ["name".toList, "KIND".toList] ++ " nome".toList :: ["other".toList] := by decide +kernel
  have selected : compile (Sample.catalog .uni) " naïve ,, NAME,name , NAÏVE".toList =
      .ok (some ⟨[6, 0]⟩) := by
    refine (selects ⟨[6, 0]⟩).2 ⟨?_, [6, 0, 0, 6], ?_, by decide⟩
    · rw [pieces]
      exact List.cons_ne_nil _ _
    · rw [pieces]
      exact .cons (finds (by decide +kernel)) (.cons (finds (by decide +kernel))
        (.cons (finds (by decide +kernel)) (.cons (finds (by decide +kernel)) .nil)))
  refine ⟨selected, (keeps _ selected).2.1, (fails _).2 ?_⟩
  refine ⟨_, _, _, pieces', ?_, by decide +kernel, by decide +kernel⟩
  intro earlier member
  rcases List.mem_cons.1 member with rfl | member
  · exact ⟨0, finds (by decide +kernel)⟩
  · rw [List.mem_singleton.1 member]
    exact ⟨9, finds (by decide +kernel)⟩

end Projection

end TextQuery
