import TextQuery.Clause.Detection
import TextQuery.Proofs.Text.Occurrence
import Mathlib.Data.Fintype.Basic
import Mathlib.Data.List.Nodup

/-!
Which operator a clause has, as a property of its text. A clause is divided at the first occurrence
of a marker of two characters exactly if no other such marker occurs anywhere in it
(`Detected.ofClause_eq_ok_iff_of_double`), and of a marker of one character exactly if no marker of
two characters and no other of one occurs (`Detected.ofClause_eq_ok_iff_of_single`). The operators
are those of the longest markers first, one length after the other (`Detected.ofClause_eq_ofTiers`).
Main statement: `Detected.ofClause_divides`.
-/

namespace TextQuery

namespace Operator

instance : Fintype Operator where
  elems := ⟨byMarkerLength, by decide⟩
  complete operator := by cases operator <;> decide

theorem marker_ne_nil (operator : Operator) : operator.marker ≠ [] := by
  cases operator <;> decide

theorem mem_doubleMarked_iff {operator : Operator} :
    operator ∈ doubleMarked ↔ operator.marker.length = 2 := by
  cases operator <;> decide

theorem mem_singleMarked_iff {operator : Operator} :
    operator ∈ singleMarked ↔ operator.marker.length = 1 := by
  cases operator <;> decide

theorem marker_length (operator : Operator) :
    operator.marker.length = 1 ∨ operator.marker.length = 2 := by
  cases operator <;> decide

end Operator

namespace Detected

section Candidates

variable {operators : List Operator} {clause : Text}

theorem candidates_eq_nil_iff :
    candidates operators clause = [] ↔
      ∀ operator ∈ operators, ¬ operator.marker <:+: clause := by
  unfold candidates
  rw [List.filterMap_eq_nil_iff]
  simp only [Option.map_eq_none_iff, Text.cutAt?_eq_none_iff]

/-- One division is found exactly if one of the markers occurs. -/
theorem candidates_eq_singleton_iff (distinct : operators.Nodup) {detected : Detected} :
    candidates operators clause = [detected] ↔
      detected.operator ∈ operators ∧
      Text.cutAt? detected.operator.marker clause = some (detected.left, detected.right) ∧
      ∀ other ∈ operators, other ≠ detected.operator → ¬ other.marker <:+: clause := by
  unfold candidates
  rw [List.filterMap_eq_cons_iff]
  refine ⟨?_, ?_⟩
  · rintro ⟨before, operator, behind, rfl, noneBefore, found, noneBehind⟩
    obtain ⟨⟨left, right⟩, cut, rfl⟩ := Option.map_eq_some_iff.1 found
    refine ⟨List.mem_append_right _ List.mem_cons_self, cut, ?_⟩
    intro other member different
    rcases List.mem_append.1 member with isBefore | member
    · exact Text.cutAt?_eq_none_iff.1 (Option.map_eq_none_iff.1 (noneBefore other isBefore))
    rcases List.mem_cons.1 member with same | isBehind
    · exact absurd same different
    · exact candidates_eq_nil_iff.1 noneBehind other isBehind
  · rintro ⟨member, cut, others⟩
    obtain ⟨before, behind, rfl⟩ := List.append_of_mem member
    obtain ⟨-, tailDistinct, apart⟩ := List.nodup_append.1 distinct
    have notBehind := (List.nodup_cons.1 tailDistinct).1
    refine ⟨before, detected.operator, behind, rfl, ?_, ?_, ?_⟩
    · intro other isBefore
      have different : other ≠ detected.operator := apart other isBefore _ List.mem_cons_self
      rw [Option.map_eq_none_iff, Text.cutAt?_eq_none_iff]
      exact others other (List.mem_append_left _ isBefore) different
    · rw [cut]
      rfl
    · refine candidates_eq_nil_iff.2 fun other isBehind => ?_
      have different : other ≠ detected.operator := by
        rintro rfl
        exact notBehind isBehind
      exact others other (List.mem_append_right _ (List.mem_cons_of_mem _ isBehind)) different

end Candidates

section Tiers

variable {clause : Text} {detected : Detected}

theorem ofClause_eq_ok_iff_candidates :
    ofClause clause = .ok detected ↔
      candidates Operator.doubleMarked clause = [detected] ∨
        candidates Operator.doubleMarked clause = [] ∧
          candidates Operator.singleMarked clause = [detected] := by
  unfold ofClause
  split
  · rename_i found
    simp [found]
  · rename_i found
    simp [found]
  · rename_i found
    rw [found]
    split
    · rename_i single
      simp [single]
    · rename_i other
      have notSingle : candidates Operator.singleMarked clause ≠ [detected] := other detected
      simp [notSingle]

theorem ofClause_eq_ok_iff_of_double (double : detected.operator.marker.length = 2) :
    ofClause clause = .ok detected ↔
      Text.cutAt? detected.operator.marker clause = some (detected.left, detected.right) ∧
      ∀ other : Operator, other.marker.length = 2 → other ≠ detected.operator →
        ¬ other.marker <:+: clause := by
  have notSingle : candidates Operator.singleMarked clause ≠ [detected] := by
    rw [Ne, candidates_eq_singleton_iff (by decide), Operator.mem_singleMarked_iff]
    rintro ⟨single, -⟩
    omega
  rw [ofClause_eq_ok_iff_candidates, or_iff_left fun both => notSingle both.2,
    candidates_eq_singleton_iff (by decide)]
  simp only [Operator.mem_doubleMarked_iff, double, true_and]

theorem ofClause_eq_ok_iff_of_single (single : detected.operator.marker.length = 1) :
    ofClause clause = .ok detected ↔
      Text.cutAt? detected.operator.marker clause = some (detected.left, detected.right) ∧
      (∀ other : Operator, other.marker.length = 2 → ¬ other.marker <:+: clause) ∧
      ∀ other : Operator, other.marker.length = 1 → other ≠ detected.operator →
        ¬ other.marker <:+: clause := by
  have notDouble : candidates Operator.doubleMarked clause ≠ [detected] := by
    rw [Ne, candidates_eq_singleton_iff (by decide), Operator.mem_doubleMarked_iff]
    rintro ⟨double, -⟩
    omega
  rw [ofClause_eq_ok_iff_candidates, or_iff_right notDouble, candidates_eq_nil_iff,
    candidates_eq_singleton_iff (by decide)]
  simp only [Operator.mem_doubleMarked_iff, Operator.mem_singleMarked_iff, single, true_and]
  exact and_left_comm

theorem cutAt?_of_ofClause (found : ofClause clause = .ok detected) :
    Text.cutAt? detected.operator.marker clause = some (detected.left, detected.right) := by
  rcases detected.operator.marker_length with single | double
  · exact ((ofClause_eq_ok_iff_of_single single).1 found).1
  · exact ((ofClause_eq_ok_iff_of_double double).1 found).1

theorem isInfix_of_ofClause (found : ofClause clause = .ok detected) :
    detected.left <:+: clause ∧ detected.right <:+: clause := by
  have cut := Text.eq_of_cutAt? (cutAt?_of_ofClause found)
  refine ⟨?_, ?_⟩
  · rw [cut, List.append_assoc]
    exact (List.prefix_append _ _).isInfix
  · rw [cut]
    exact (List.suffix_append _ _).isInfix

end Tiers

/-! ## Tiers of markers -/

/-- Tries the tiers in order. The first one of which a marker occurs decides, and only if no other
marker of it occurs. -/
def ofTiers (clause : Text) : List (List Operator) → Except ParseError Detected
  | [] => .error (.malformedClause clause)
  | tier :: tiers =>
    match candidates tier clause with
    | [] => ofTiers clause tiers
    | [detected] => .ok detected
    | _ :: _ :: _ => .error (.malformedClause clause)

/-- The tiers are the runs of markers of one length. -/
theorem ofClause_eq_ofTiers (clause : Text) :
    ofClause clause = ofTiers clause (Operator.byMarkerLength.splitBy fun first second =>
      first.marker.length == second.marker.length) := by
  have tiers : (Operator.byMarkerLength.splitBy fun first second =>
      first.marker.length == second.marker.length) =
        [Operator.doubleMarked, Operator.singleMarked] := by
    decide
  rw [tiers]
  unfold ofClause
  simp only [ofTiers]
  cases candidates Operator.doubleMarked clause with
  | nil =>
    cases candidates Operator.singleMarked clause with
    | nil => rfl
    | cons first more => cases more <;> rfl
  | cons first more => cases more <;> rfl

/-- However many tiers there are, the only error is that the clause is malformed. -/
theorem eq_malformedClause_of_ofTiers {clause : Text} {tiers : List (List Operator)}
    {error : ParseError} (failed : ofTiers clause tiers = .error error) :
    error = .malformedClause clause := by
  induction tiers with
  | nil =>
    cases failed
    rfl
  | cons tier tiers ih =>
    rw [ofTiers] at failed
    split at failed
    · exact ih failed
    · cases failed
    · cases failed
      rfl

theorem eq_malformedClause {clause : Text} {error : ParseError}
    (failed : ofClause clause = .error error) : error = .malformedClause clause := by
  rw [ofClause_eq_ofTiers] at failed
  exact eq_malformedClause_of_ofTiers failed

/-! ## Division at the one operator -/

/-- The markers of two characters. -/
def doubleMarkers : List Text :=
  [">=".toList, "<=".toList, "!=".toList, "%%".toList]

theorem mem_doubleMarkers_iff {marker : Text} :
    marker ∈ doubleMarkers ↔ ∃ operator : Operator, operator.marker.length = 2 ∧
      operator.marker = marker := by
  have markers : doubleMarkers = Operator.doubleMarked.map (·.marker) := by decide
  rw [markers, List.mem_map]
  simp only [Operator.mem_doubleMarked_iff]

/-- The clause is divided at its one operator: nothing of it is lost, the marker does not occur
earlier, no other marker of its length occurs at all, and none of two characters does if it has
one. -/
structure Divides (clause : Text) (detected : Detected) : Prop where
  joined : clause = detected.left ++ detected.operator.marker ++ detected.right
  first : ∀ before after, clause = before ++ detected.operator.marker ++ after →
    detected.left.length ≤ before.length
  alone : ∀ other : Operator, other.marker.length = detected.operator.marker.length →
    other ≠ detected.operator → ¬ other.marker <:+: clause
  longest : detected.operator.marker.length = 1 →
    ∀ marker ∈ doubleMarkers, ¬ marker <:+: clause

theorem ofClause_eq_ok_iff_divides {clause : Text} {detected : Detected} :
    ofClause clause = .ok detected ↔ Divides clause detected := by
  rcases detected.operator.marker_length with single | double
  · rw [ofClause_eq_ok_iff_of_single single, Text.cutAt?_eq_some_iff]
    constructor
    · rintro ⟨⟨joined, first⟩, longest, alone⟩
      refine ⟨joined, first, ?_, ?_⟩
      · rw [single]
        exact alone
      · intro _ marker member
        obtain ⟨operator, double, rfl⟩ := mem_doubleMarkers_iff.1 member
        exact longest operator double
    · intro divides
      refine ⟨⟨divides.joined, divides.first⟩, ?_, ?_⟩
      · intro operator double
        exact divides.longest single _ (mem_doubleMarkers_iff.2 ⟨operator, double, rfl⟩)
      · intro other otherSingle
        exact divides.alone other (otherSingle.trans single.symm)
  · rw [ofClause_eq_ok_iff_of_double double, Text.cutAt?_eq_some_iff]
    constructor
    · rintro ⟨⟨joined, first⟩, alone⟩
      refine ⟨joined, first, ?_, ?_⟩
      · rw [double]
        exact alone
      · intro single
        omega
    · intro divides
      refine ⟨⟨divides.joined, divides.first⟩, ?_⟩
      intro other otherDouble
      exact divides.alone other (otherDouble.trans double.symm)

/-- A clause is read as divided at its one operator, in the one way there is. A clause that has no
such operator is malformed, and the error holds all of it. -/
theorem ofClause_divides (clause : Text) :
    (∀ detected, ofClause clause = .ok detected ↔ Divides clause detected) ∧
    (∀ error, ofClause clause = .error error ↔
      error = .malformedClause clause ∧ ∀ detected, ¬ Divides clause detected) ∧
    ∀ first second, Divides clause first → Divides clause second → first = second := by
  refine ⟨fun detected => ofClause_eq_ok_iff_divides, ?_, ?_⟩
  · intro error
    simp only [← ofClause_eq_ok_iff_divides]
    constructor
    · intro failed
      refine ⟨eq_malformedClause failed, fun detected found => ?_⟩
      rw [failed] at found
      cases found
    · rintro ⟨rfl, none⟩
      cases outcome : ofClause clause with
      | ok detected => exact absurd outcome (none detected)
      | error error => rw [eq_malformedClause outcome]
  · intro first second divides divides'
    have found := ofClause_eq_ok_iff_divides.2 divides
    rw [ofClause_eq_ok_iff_divides.2 divides'] at found
    exact (Except.ok.inj found).symm

/-- Of markers that overlap each other and themselves, the longest and leftmost counts; with two of
one length, none does. -/
theorem ofClause_divides_overlapping :
    let three : Detected := ⟨.containsCaseSensitive, "größe".toList, "%é".toList⟩
    Divides "größe%%%é".toList three ∧
    (∀ other, Divides "größe%%%é".toList other → other = three) ∧
    ofClause "a<>b".toList = .error (.malformedClause "a<>b".toList) ∧
    ∀ detected, ¬ Divides "a<>b".toList detected := by
  intro three
  obtain ⟨divided, -, unique⟩ := ofClause_divides "größe%%%é".toList
  have divides : Divides "größe%%%é".toList three := (divided three).1 rfl
  obtain ⟨-, refused, -⟩ := ofClause_divides "a<>b".toList
  have malformed : ofClause "a<>b".toList = .error (.malformedClause "a<>b".toList) := rfl
  exact ⟨divides, fun other dividesToo => unique other three dividesToo divides, malformed,
    ((refused _).1 malformed).2⟩

end Detected

end TextQuery
