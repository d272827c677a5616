import TextQuery.Projection
import TextQuery.Proofs.Clause.Pieces
import TextQuery.Proofs.Schema.Lookup
import TextQuery.Proofs.Text.Splitting
import Mathlib.Data.List.Nodup

/-!
Selections compiled. A selection names what is left of its pieces between commas once they are
trimmed and the empty ones are dropped (`readSelection_eq`). It compiles to the positions of the
named fields, each where it is named first (`Projection.compile_eq_some_iff`).
-/

namespace TextQuery

/-! ## Names -/

/-- The names between the commas of a text. -/
def selectedNames (text : Text) : List Text :=
  ((Text.pieces ',' text).map Text.trim).filter (· ≠ [])

/-- The names of a selection are its visible pieces, trimmed. -/
theorem selectedNames_eq (text : Text) :
    selectedNames text =
      ((Text.pieces ',' text).filter fun piece => !piece.isBlank).map Text.trim := by
  unfold selectedNames
  rw [List.filter_map]
  congr 1
  refine List.filter_congr fun piece _ => ?_
  rw [Bool.eq_iff_iff]
  simp [← Text.isBlank_iff_trim_eq_nil]

theorem mem_selectedNames_iff {text name : Text} :
    name ∈ selectedNames text ↔ name ≠ [] ∧ ∃ piece ∈ Text.pieces ',' text, piece.trim = name := by
  unfold selectedNames
  rw [List.mem_filter, List.mem_map, decide_eq_true_iff, and_comm]

/-- A blank text holds no comma, so it is one piece, and that is empty once it is trimmed. -/
theorem selectedNames_of_blank {text : Text} (blank : text.isBlank = true) :
    selectedNames text = [] := by
  refine List.eq_nil_iff_forall_not_mem.2 fun name member => ?_
  obtain ⟨visible, piece, isPiece, rfl⟩ := mem_selectedNames_iff.1 member
  refine visible (Text.isBlank_iff_trim_eq_nil.1 (List.all_eq_true.2 fun c within => ?_))
  refine List.all_eq_true.1 blank c ?_
  rw [← Text.join_pieces ',' text]
  exact Text.mem_join_of_mem isPiece within

theorem readSelection_eq (text : Text) : readSelection text = .ok (selectedNames text) := by
  unfold readSelection
  by_cases blank : text.isBlank = true
  · rw [if_pos blank, selectedNames_of_blank blank]
    rfl
  · have scanned : Rule.select.scan text = .ok (Grammar.pieceTokens .fieldName ',' text) := rfl
    rw [if_neg blank, scanned]
    unfold selectedNames
    rw [← Token.textsOf_pieceTokens (show Rule.fieldName ≠ .finish by decide) ',' text]
    rfl

/-- Visible and trimmed names without commas come back from their text. -/
theorem selectedNames_join {names : List Text} (nonempty : names ≠ [])
    (plain : ∀ name ∈ names, name ≠ [] ∧ name.trim = name ∧ ',' ∉ name) :
    selectedNames (Text.join [','] names) = names := by
  have pieces : Text.pieces ',' (Text.join [','] names) = names :=
    Text.pieces_join nonempty fun name isName => (plain name isName).2.2
  have trimmed : names.map Text.trim = names := by
    conv_rhs => rw [← List.map_id names]
    exact List.map_congr_left fun name isName => (plain name isName).2.1
  unfold selectedNames
  rw [pieces, trimmed]
  exact List.filter_eq_self.2 fun name isName => decide_eq_true (plain name isName).1

namespace Projection

/-! ## Positions -/

theorem mem_add_iff {fields : List Nat} {index other : Nat} :
    other ∈ add fields index ↔ other ∈ fields ∨ other = index := by
  unfold add
  split
  · rename_i held
    refine ⟨Or.inl, ?_⟩
    rintro (member | rfl)
    · exact member
    · exact held
  · rw [List.mem_append, List.mem_singleton]

theorem nodup_add {fields : List Nat} (distinct : fields.Nodup) (index : Nat) :
    (add fields index).Nodup := by
  unfold add
  split
  · exact distinct
  · rename_i fresh
    exact distinct.append (List.nodup_singleton index) (List.disjoint_singleton.2 fresh)

theorem mem_foldl_add_iff {positions fields : List Nat} {index : Nat} :
    index ∈ positions.foldl add fields ↔ index ∈ fields ∨ index ∈ positions := by
  induction positions generalizing fields with
  | nil => simp
  | cons first more ih => rw [List.foldl_cons, ih, mem_add_iff, List.mem_cons, or_assoc]

theorem nodup_foldl_add {positions fields : List Nat} (distinct : fields.Nodup) :
    (positions.foldl add fields).Nodup := by
  induction positions generalizing fields with
  | nil => exact distinct
  | cons first more ih => exact ih (nodup_add distinct first)

/-- Positions that are all different are all kept, in their order. -/
theorem foldl_add_of_nodup {positions fields : List Nat} (distinct : (fields ++ positions).Nodup) :
    positions.foldl add fields = fields ++ positions := by
  induction positions generalizing fields with
  | nil => rw [List.append_nil, List.foldl_nil]
  | cons first more ih =>
    have fresh : first ∉ fields := fun member =>
      (List.nodup_append.1 distinct).2.2 first member first List.mem_cons_self rfl
    have added : add fields first = fields ++ [first] := if_neg fresh
    rw [List.append_cons] at distinct ⊢
    rw [List.foldl_cons, added, ih distinct]

/-! ## Compilation -/

section Compiling

variable {ι : Type} {root : Schema ι} {text name : Text} {projection : Projection}

theorem position_eq_ok_iff {index : Nat} :
    position root name = .ok index ↔ ∃ field, root.field? name = some (index, field) := by
  unfold position
  split
  · rename_i index' field found
    refine ⟨?_, ?_⟩
    · rintro ⟨⟩
      exact ⟨field, found⟩
    · rintro ⟨field', found'⟩
      rw [found] at found'
      cases found'
      rfl
  · rename_i missing
    refine iff_of_false nofun ?_
    rintro ⟨field, found⟩
    rw [missing] at found
    cases found

theorem compile_eq :
    compile root text =
      if selectedNames text = [] then .ok none
      else ((selectedNames text).mapM (position root)).map fun positions =>
        some ⟨positions.foldl add []⟩ := by
  unfold compile
  rw [readSelection_eq]
  refine if_congr Iff.rfl rfl ?_
  cases (selectedNames text).mapM (position root) <;> rfl

theorem compile_eq_some_iff :
    compile root text = .ok (some projection) ↔
      selectedNames text ≠ [] ∧ ∃ positions, (selectedNames text).mapM (position root) =
        .ok positions ∧ projection = ⟨positions.foldl add []⟩ := by
  rw [compile_eq]
  split
  · rename_i empty
    exact iff_of_false nofun fun parts => parts.1 empty
  · rename_i nonempty
    rw [and_iff_right nonempty, map_eq_ok_iff]
    refine exists_congr fun positions => and_congr_right fun _ => ?_
    rw [Option.some_inj, eq_comm]

/-- A selection of the same names up to case, in any order and any number, compiles too. -/
theorem exists_compile_of_respelled {text' : Text}
    (compiled : compile root text = .ok (some projection))
    (respelled : ∀ name : Text, name ∈ (selectedNames text).map Text.lower ↔
      name ∈ (selectedNames text').map Text.lower) :
    ∃ projection', compile root text' = .ok (some projection') := by
  obtain ⟨selected, positions, each, -⟩ := compile_eq_some_iff.1 compiled
  have found := exists_mapM_eq_ok_iff.1 ⟨positions, each⟩
  have found' : ∀ name' ∈ selectedNames text', ∃ index, position root name' = .ok index := by
    intro name' isName'
    obtain ⟨name, isName, same⟩ := List.mem_map.1 ((respelled _).2 (List.mem_map_of_mem isName'))
    obtain ⟨index, positioned⟩ := found name isName
    obtain ⟨field, here⟩ := position_eq_ok_iff.1 positioned
    rw [Schema.field?_congr same] at here
    exact ⟨index, position_eq_ok_iff.2 ⟨field, here⟩⟩
  obtain ⟨positions', each'⟩ := exists_mapM_eq_ok_iff.2 found'
  refine ⟨_, compile_eq_some_iff.2 ⟨?_, positions', each', rfl⟩⟩
  obtain ⟨name, isName⟩ := List.exists_mem_of_ne_nil _ selected
  obtain ⟨name', isName', -⟩ := List.mem_map.1 ((respelled _).1 (List.mem_map_of_mem isName))
  exact List.ne_nil_of_mem isName'

section Compiled

variable (compiled : compile root text = .ok (some projection))

include compiled

/-- A selected position is that of a field, which is found there under its own name too. -/
theorem field_of_mem_fields {index : Nat} (member : index ∈ projection.fields) :
    ∃ field, root.fields[index]? = some field ∧ root.field? field.name = some (index, field) := by
  obtain ⟨-, positions, each, rfl⟩ := compile_eq_some_iff.1 compiled
  have asked := (mem_foldl_add_iff.1 member).resolve_left List.not_mem_nil
  obtain ⟨name, -, positioned⟩ := exists_of_mem_mapM each asked
  obtain ⟨field, found⟩ := position_eq_ok_iff.1 positioned
  exact ⟨field, Schema.getElem?_of_field? found, Schema.field?_name found⟩

theorem fields_ne_nil : projection.fields ≠ [] := by
  obtain ⟨selected, positions, each, rfl⟩ := compile_eq_some_iff.1 compiled
  obtain ⟨index, asked⟩ := List.exists_mem_of_ne_nil _ (ne_nil_of_mapM each selected)
  exact List.ne_nil_of_mem (mem_foldl_add_iff.2 (Or.inr asked))

theorem nodup_fields : projection.fields.Nodup := by
  obtain ⟨-, positions, -, rfl⟩ := compile_eq_some_iff.1 compiled
  exact nodup_foldl_add List.nodup_nil

end Compiled

end Compiling

end Projection

end TextQuery
