import TextQuery.Text.LowerCase

/-!
Names up to case. ASCII texts are compared letter by letter and all others by their lower-case
forms, but on ASCII the two agree, so names are equal up to case exactly if they have the same
lower-case form (`eqIgnoreCase_iff`). Whatever the alphabets of the names, this is an equivalence,
and it does not confuse blank texts with others (`isBlank_lower`).
-/

namespace TextQuery

namespace Text

theorem lowerChar_eq_toLower {c : Char} (ascii : c.toNat < 128) : lowerChar c = c.toLower := by
  have table : (List.range 128).all fun n =>
      lowerChar (Char.ofNat n) = (Char.ofNat n).toLower := by decide +kernel
  have same := List.all_eq_true.1 table c.toNat (List.mem_range.2 ascii)
  rw [Char.ofNat_toNat] at same
  exact of_decide_eq_true same

/-- The lower-case form of an ASCII text does not depend on what stands around its letters. -/
theorem lowerAfter_eq_map {text : Text} (ascii : isAscii text = true) (before : Text) :
    lowerAfter before text = text.map Char.toLower := by
  induction text generalizing before with
  | nil => rfl
  | cons c rest ih =>
    obtain ⟨small, rest⟩ := Bool.and_eq_true_iff.1 (List.all_cons.symm.trans ascii)
    have small : c.toNat < 128 := of_decide_eq_true small
    have noDot : c ≠ 'İ' := by
      rintro rfl
      exact absurd small (by decide)
    have noSigma : c ≠ 'Σ' := by
      rintro rfl
      exact absurd small (by decide)
    rw [lowerAfter, if_neg noDot, if_neg noSigma, lowerChar_eq_toLower small, ih rest]
    rfl

/-- Names are equal up to case exactly if they have the same lower-case form. -/
theorem eqIgnoreCase_iff {left right : Text} :
    eqIgnoreCase left right = true ↔ left.lower = right.lower := by
  unfold eqIgnoreCase
  split
  · rename_i both
    obtain ⟨leftAscii, rightAscii⟩ := Bool.and_eq_true_iff.1 both
    unfold lower eqIgnoreAsciiCase
    rw [decide_eq_true_iff, lowerAfter_eq_map leftAscii, lowerAfter_eq_map rightAscii]
  · exact decide_eq_true_iff

/-! ## White space -/

theorem isWhiteSpace_iff {c : Char} :
    isWhiteSpace c = true ↔
      ∃ range ∈ whiteSpaceRanges, range.first ≤ c.toNat ∧ c.toNat ≤ range.last := by
  unfold isWhiteSpace inRanges CharRange.contains
  simp only [List.any_eq_true, Bool.and_eq_true, decide_eq_true_iff]

theorem toNat_ofNat_of_pos {n : Nat} (positive : 0 < (Char.ofNat n).toNat) :
    (Char.ofNat n).toNat = n := by
  by_cases valid : n.isValidChar
  · have stands : Char.ofNat n = Char.ofNatAux n valid := dif_pos valid
    rw [stands]
    rfl
  · have none : Char.ofNat n = Char.ofNat 0 := dif_neg valid
    rw [none] at positive
    exact absurd positive (Nat.lt_irrefl 0)

/-- Neither the characters of a run nor their partners are white space. -/
theorem isWhiteSpace_of_shift? {run : CaseRun} (listed : run ∈ lowerCaseRuns) {c d : Char}
    (moved : run.shift? c = some d) : isWhiteSpace c = false ∧ isWhiteSpace d = false := by
  have table : lowerCaseRuns.all fun run => whiteSpaceRanges.all fun range =>
      (run.last < range.first ∨ range.last < run.first) ∧
        (run.last + run.offset < range.first ∨ range.last < run.first + run.offset) := by
    decide +kernel
  have positive : ∀ range ∈ whiteSpaceRanges, 0 < range.first := by decide
  have apart := fun range isRange =>
    of_decide_eq_true (List.all_eq_true.1 (List.all_eq_true.1 table run listed) range isRange)
  unfold CaseRun.shift? at moved
  split at moved
  · rename_i within
    cases moved
    refine ⟨?_, ?_⟩
    · refine Bool.eq_false_iff.2 fun white => ?_
      obtain ⟨range, isRange, above, below⟩ := isWhiteSpace_iff.1 white
      have outside := apart range isRange
      omega
    · refine Bool.eq_false_iff.2 fun white => ?_
      obtain ⟨range, isRange, above, below⟩ := isWhiteSpace_iff.1 white
      have fromOne := positive range isRange
      have partner := toNat_ofNat_of_pos (Nat.lt_of_lt_of_le fromOne above)
      rw [partner] at above below
      have outside := apart range isRange
      omega
  · cases moved

theorem isWhiteSpace_lowerChar (c : Char) : isWhiteSpace (lowerChar c) = isWhiteSpace c := by
  unfold lowerChar
  cases found : lowerCaseRuns.findSome? (·.shift? c) with
  | none => rfl
  | some d =>
    obtain ⟨run, listed, moved⟩ := List.exists_of_findSome?_eq_some found
    obtain ⟨visible, visible'⟩ := isWhiteSpace_of_shift? listed moved
    rw [Option.getD_some, visible, visible']

/-- A text is blank exactly if its lower-case form is. -/
theorem isBlank_lower (text : Text) : text.lower.isBlank = text.isBlank := by
  have after : ∀ before : Text, (lowerAfter before text).isBlank = text.isBlank := by
    unfold isBlank
    induction text with
    | nil => exact fun _ => rfl
    | cons c rest ih =>
      intro before
      rw [lowerAfter, List.all_append, ih, List.all_cons]
      refine congrArg (· && _) ?_
      split
      · rename_i dotted
        rw [dotted]
        decide
      · split
        · rename_i sigma
          rw [sigma]
          split <;> decide
        · rw [List.all_cons, List.all_nil, Bool.and_true, isWhiteSpace_lowerChar]
  exact after []

end Text

end TextQuery
