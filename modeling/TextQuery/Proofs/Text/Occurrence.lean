import TextQuery.Text.Basic

/-!
Occurrences of a marker in a text. A text can be cut at a marker exactly if the marker occurs in it
(`isSome_cutAt?_iff`), and the cut is then at the occurrence before which no other begins
(`cutAt?_eq_some_iff`). Text that does not hold the first character of a marker can stand in front
without making an occurrence (`isInfix_append_iff`), and the cut is then behind it
(`cutAt?_append`).
-/

namespace TextQuery

namespace Text

theorem isSome_after?_iff {lead text : Text} :
    (after? lead text).isSome = true ↔ lead <+: text := by
  rw [Option.isSome_iff_exists]
  simp only [after?_eq_some_iff]
  exact ⟨fun ⟨rest, same⟩ => ⟨rest, same.symm⟩, fun ⟨rest, same⟩ => ⟨rest, same.symm⟩⟩

/-- A text can be cut at a marker exactly if the marker occurs in it. -/
theorem isSome_cutAt?_iff {marker text : Text} :
    (cutAt? marker text).isSome = true ↔ marker <:+: text := by
  induction text with
  | nil =>
    rw [cutAt?, Option.isSome_map, isSome_after?_iff, List.prefix_nil, List.infix_nil]
  | cons c rest ih =>
    rw [List.infix_cons_iff, ← ih, ← isSome_after?_iff, cutAt?]
    cases after? marker (c :: rest) with
    | some right => simp
    | none => simp

theorem cutAt?_eq_none_iff {marker text : Text} :
    cutAt? marker text = none ↔ ¬ marker <:+: text := by
  rw [← isSome_cutAt?_iff, Bool.not_eq_true, Option.isSome_eq_false_iff, Option.isNone_iff_eq_none]

/-- No occurrence begins before the cut. -/
theorem length_le_of_cutAt? {marker text left right before after : Text}
    (cut : cutAt? marker text = some (left, right)) (occurs : text = before ++ marker ++ after) :
    left.length ≤ before.length := by
  induction text generalizing left before with
  | nil =>
    have joined := congrArg List.length (eq_of_cutAt? cut)
    simp only [List.length_nil, List.length_append] at joined
    omega
  | cons c rest ih =>
    rw [cutAt?] at cut
    cases here : after? marker (c :: rest) with
    | some right' =>
      simp only [here, Option.some.injEq, Prod.mk.injEq] at cut
      simp [← cut.1]
    | none =>
      rw [here] at cut
      obtain ⟨⟨left', right'⟩, later, same⟩ := Option.map_eq_some_iff.1 cut
      cases same
      cases before with
      | nil =>
        have found : after? marker (c :: rest) = some after := after?_eq_some_iff.2 occurs
        rw [here] at found
        cases found
      | cons d before =>
        have deeper := ih later (List.cons.inj occurs).2
        simp only [List.length_cons]
        omega

/-- A text is cut at a marker where the marker occurs first. -/
theorem cutAt?_eq_some_iff {marker text left right : Text} :
    cutAt? marker text = some (left, right) ↔
      text = left ++ marker ++ right ∧
      ∀ before after, text = before ++ marker ++ after → left.length ≤ before.length := by
  constructor
  · intro cut
    exact ⟨eq_of_cutAt? cut, fun before after occurs => length_le_of_cutAt? cut occurs⟩
  · rintro ⟨joined, first⟩
    have occurs : marker <:+: text := ⟨left, right, joined.symm⟩
    obtain ⟨⟨left', right'⟩, cut⟩ := Option.isSome_iff_exists.1 (isSome_cutAt?_iff.2 occurs)
    have joined' := eq_of_cutAt? cut
    have sameLength : left'.length = left.length := by
      have notAfter := length_le_of_cutAt? cut joined
      have notBefore := first left' right' joined'
      omega
    rw [joined, List.append_assoc, List.append_assoc] at joined'
    obtain ⟨rfl, rest⟩ := List.append_inj joined' sameLength.symm
    rw [cut, List.append_cancel_left rest]

section Clear

variable {marker left right : Text}

/-- A marker that cannot begin in the text before it is found where it stands. -/
theorem cutAt?_append (nonempty : marker ≠ []) (clear : ∀ c ∈ marker.head?, c ∉ left) :
    cutAt? marker (left ++ marker ++ right) = some (left, right) := by
  obtain ⟨c, rest, rfl⟩ := List.exists_cons_of_ne_nil nonempty
  replace clear : c ∉ left := clear c rfl
  induction left with
  | nil =>
    have found : after? (c :: rest) (c :: (rest ++ right)) = some right := after?_eq_some_iff.2 rfl
    rw [List.nil_append, List.cons_append, cutAt?, found]
  | cons d left ih =>
    obtain ⟨different, clear⟩ := List.ne_and_not_mem_of_not_mem_cons clear
    rw [List.cons_append, List.cons_append, cutAt?, after?, if_neg different, ih clear]
    rfl

/-- Nothing that stands in front of a text makes the text hold a marker, unless the marker can begin
there. -/
theorem isInfix_append_iff (nonempty : marker ≠ []) (clear : ∀ c ∈ marker.head?, c ∉ left) :
    marker <:+: left ++ right ↔ marker <:+: right := by
  obtain ⟨c, rest, rfl⟩ := List.exists_cons_of_ne_nil nonempty
  replace clear : c ∉ left := clear c rfl
  induction left with
  | nil => rw [List.nil_append]
  | cons d left ih =>
    obtain ⟨different, clear⟩ := List.ne_and_not_mem_of_not_mem_cons clear
    have shorter : c :: rest <:+: left ++ right ↔ c :: rest <:+: right := ih clear
    rw [List.cons_append, List.infix_cons_iff, shorter, List.cons_prefix_cons]
    exact or_iff_right fun ⟨same, _⟩ => different same

end Clear

end Text

end TextQuery
