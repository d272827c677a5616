import TextQuery.Proofs.Filter.Conditions
import TextQuery.Proofs.Path.Terminals
import TextQuery.Proofs.Text.FinalSigma
import TextQuery.Samples.Catalog

/-!
Searching with and without regard to case. The needle and the searched text are lower-cased each on
its own, so a match that regards case is also one that ignores it exactly if the needle settles the
forms of its sigmas (`Condition.search_ignoring_case_iff`); a needle without capital sigmas always
does. For a needle that does not there are items that only the stricter search finds
(`Condition.lost_in_lower_case`).
-/

namespace TextQuery

variable {ι : Type}

/-! ## Items with something at the end of a path -/

theorem View.exists_walk_eq (indices : List Nat) (target : View) :
    ∃ item : View, item.walk indices = target := by
  induction indices with
  | nil => exact ⟨target, rfl⟩
  | cons index indices ih =>
    obtain ⟨inner, reached⟩ := ih
    refine ⟨.record (List.replicate index .null ++ [inner]), ?_⟩
    rw [walk_cons, child_record, List.getElem?_append_right (by simp)]
    simpa using reached

theorem PropertyPath.exists_terminals_eq (path : PropertyPath ι) (target : View) :
    ∃ item : View, path.terminals item = [target] := by
  cases hop : path.quantifier with
  | none =>
    obtain ⟨item, reached⟩ := View.exists_walk_eq path.indices target
    exact ⟨item, by rw [terminals_of_direct hop, reached]⟩
  | some hop' =>
    obtain ⟨element, inner⟩ := View.exists_walk_eq (path.indices.drop (hop' + 1)) target
    obtain ⟨item, outer⟩ := View.exists_walk_eq (path.indices.take (hop' + 1)) (.list [element])
    refine ⟨item, ?_⟩
    rw [terminals_of_crossing hop, outer]
    simp [View.elements, inner]

namespace Condition

/-! ## What a search finds -/

section Search

variable {path : PropertyPath ι} {operator : Operator} {needle : Text}

theorem test_needle_iff {view : View} :
    test ⟨path, operator, .needle needle⟩ view = true ↔
      ∃ value, view = .value value ∧ operator.finds (some value) needle = true := by
  cases view with
  | value value => simp [test, testValue]
  | null => cases operator <;> simp [test, testValue, Operator.finds]
  | record fields => simp [test]
  | list elements => simp [test]

theorem evaluate_needle_iff {item : View} :
    evaluate ⟨path, operator, .needle needle⟩ item = true ↔
      ∃ value, .value value ∈ path.terminals item ∧ operator.finds (some value) needle = true := by
  unfold evaluate
  rw [List.any_eq_true]
  simp only [test_needle_iff]
  constructor
  · rintro ⟨view, reached, value, rfl, found⟩
    exact ⟨value, reached, found⟩
  · rintro ⟨value, reached, found⟩
    exact ⟨_, reached, value, rfl, found⟩

end Search

/-- A literal is searched for at every path to values. What is found with regard to case is also
found without, in all items, exactly if the literal settles the forms of its sigmas. -/
theorem search_ignoring_case_iff (catalog : Catalog ι) (options : CompileOptions)
    (path : PropertyPath ι) (text : Text) (comparable : path.terminal.isComparable = true) :
    ∃ strict loose, compile catalog options path .containsCaseSensitive text = .ok strict ∧
      compile catalog options path .contains text = .ok loose ∧
      (text.SigmasSettled ↔ ∀ item, strict.evaluate item = true → loose.evaluate item = true) := by
  have read : ∀ operator : Operator, operator.isTextual = true →
      Literal.read catalog options path.terminal operator text =
        .ok (.needle (if operator = .contains then text.lower else text)) := by
    intro operator searches
    rw [Literal.read_eq, comparable, searches]
    simp
  refine ⟨⟨path, .containsCaseSensitive, .needle text⟩, ⟨path, .contains, .needle text.lower⟩,
    compile_eq_ok_iff.2 ⟨rfl, rfl, read _ rfl⟩, compile_eq_ok_iff.2 ⟨rfl, rfl, read _ rfl⟩, ?_⟩
  simp only [evaluate_needle_iff, Operator.finds]
  constructor
  · rintro settled item ⟨value, reached, found⟩
    exact ⟨value, reached, Text.contains_lower_of_settled settled found⟩
  · intro kept
    refine Text.sigmasSettled_iff.2 fun content found => ?_
    obtain ⟨item, only⟩ := path.exists_terminals_eq (.value (.string content))
    obtain ⟨value, reached, foundLower⟩ := kept item ⟨.string content, by simp [only], found⟩
    rw [only, List.mem_singleton] at reached
    cases reached
    exact foundLower

/-- The first syllables of `ΣΊΣΥΦΟΣ` are found in any case, as no sigma among them can end a
word. -/
theorem search_ignoring_case_iff_sisyphus :
    let street : PropertyPath Sample :=
      ⟨"Address".toList, [⟨"street".toList, 0, .scalar .string⟩], none, .scalar .string⟩
    let item := Sample.view .address [.string "ΣΊΣΥΦΟΣ".toList, .string [], .absent]
    street.terminal.isComparable = true ∧ Text.SigmasSettled "ΣΊΣΥ".toList ∧
    ∃ strict loose,
      compile Sample.catalog {} street .containsCaseSensitive "ΣΊΣΥ".toList = .ok strict ∧
      compile Sample.catalog {} street .contains "ΣΊΣΥ".toList = .ok loose ∧
      strict.evaluate item = true ∧ loose.evaluate item = true := by
  intro street item
  obtain ⟨strict, loose, strictly, loosely, settled⟩ :=
    search_ignoring_case_iff Sample.catalog {} street "ΣΊΣΥ".toList rfl
  have sigmas : Text.SigmasSettled "ΣΊΣΥ".toList := by decide +kernel
  have found : strict.evaluate item = true := by
    cases strictly
    decide +kernel
  exact ⟨rfl, sigmas, strict, loose, strictly, loosely, found, settled.1 sigmas item found⟩

/-- `ΑΣ` ends in the final sigma and `ΑΣΑ` has none, so the one is found in the other only with
regard to case. -/
theorem lost_in_lower_case :
    let street : PropertyPath Sample :=
      ⟨"Address".toList, [⟨"street".toList, 0, .scalar .string⟩], none, .scalar .string⟩
    let item := Sample.view .address [.string "ΑΣΑ".toList, .string [], .absent]
    PropertyPath.resolve Sample.catalog (Sample.catalog .address) ⟨["street".toList]⟩ =
      .ok street ∧
    street.terminal.isComparable = true ∧
    ∃ strict loose,
      compile Sample.catalog {} street .containsCaseSensitive "ΑΣ".toList = .ok strict ∧
      compile Sample.catalog {} street .contains "ΑΣ".toList = .ok loose ∧
      strict.evaluate item = true ∧ loose.evaluate item = false := by
  intro street item
  refine ⟨eq_ok_of_toOption (by decide +kernel), rfl,
    ⟨street, .containsCaseSensitive, .needle "ΑΣ".toList⟩,
    ⟨street, .contains, .needle "ας".toList⟩, rfl, eq_ok_of_toOption (by decide +kernel), ?_, ?_⟩
  · decide +kernel
  · decide +kernel

end Condition

end TextQuery
