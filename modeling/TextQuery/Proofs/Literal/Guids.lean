import TextQuery.Guid
import TextQuery.Proofs.Text.BareTexts

/-!
The written form of GUIDs read back. A GUID is written with the 32 digits of its number, and these
come back as the number (`Guid.ofDigits?_digits`). The hyphens between the groups are no digits, so
the groups come back too. Main statement: `Guid.read?_text`.
-/

namespace TextQuery

namespace Guid

/-! ## Hexadecimal digits -/

/-- The number with the given digits, the most significant one first. -/
def digitsValue (digits : List Nat) : Nat :=
  digits.foldl (fun total digit => 16 * total + digit) 0

/-- A character that stands for a digit can be read, and it is none of the marks around digits. -/
theorem digitChar_cases {digit : Nat} (small : digit < 16) :
    hexDigit? digit.digitChar = some digit ∧ digit.digitChar ≠ '-' ∧ digit.digitChar ≠ '\x7b' ∧
      digit.digitChar.toLower ≠ 'u' ∧ digit.digitChar ∈ Text.bareCharacters := by
  have table : ∀ digit < 16, hexDigit? digit.digitChar = some digit ∧ digit.digitChar ≠ '-' ∧
      digit.digitChar ≠ '\x7b' ∧ digit.digitChar.toLower ≠ 'u' ∧
      digit.digitChar ∈ Text.bareCharacters := by decide
  exact table digit small

theorem exists_toDigits (n : Nat) :
    ∃ digits : List Nat, Nat.toDigits 16 n = digits.map Nat.digitChar ∧
      (∀ digit ∈ digits, digit < 16) ∧ digitsValue digits = n := by
  induction n using Nat.strongRecOn with
  | ind n ih =>
    rw [Nat.toDigits_eq_if (by decide)]
    split
    · rename_i small
      exact ⟨[n], rfl, List.forall_mem_singleton.2 small, by simp [digitsValue]⟩
    · rename_i large
      obtain ⟨digits, written, small, same⟩ := ih (n / 16) (by omega)
      refine ⟨digits ++ [n % 16], by rw [written, List.map_append, List.map_singleton], ?_, ?_⟩
      · exact List.forall_mem_append.2
          ⟨small, List.forall_mem_singleton.2 (Nat.mod_lt n (by decide))⟩
      · unfold digitsValue at same ⊢
        rw [List.foldl_append, same, List.foldl_cons, List.foldl_nil, Nat.div_add_mod]

/-- A GUID is written with 32 digits of its number. -/
theorem exists_digits (guid : Guid) :
    ∃ digits : List Nat, Numeral.padLeft 32 (Nat.toDigits 16 guid.number) =
        digits.map Nat.digitChar ∧ digits.length = 32 ∧ (∀ digit ∈ digits, digit < 16) ∧
      digitsValue digits = guid.number := by
  obtain ⟨digits, written, small, same⟩ := exists_toDigits guid.number
  have short : digits.length ≤ 32 := by
    rw [← List.length_map (f := Nat.digitChar), ← written]
    exact (Nat.length_toDigits_le_iff (by decide) (by decide)).2 guid.number.isLt
  refine ⟨List.replicate (32 - digits.length) 0 ++ digits, ?_, ?_, ?_, ?_⟩
  · unfold Numeral.padLeft
    rw [written, List.length_map, List.map_append, List.map_replicate]
    rfl
  · rw [List.length_append, List.length_replicate, Nat.sub_add_cancel short]
  · refine List.forall_mem_append.2 ⟨fun digit zero => ?_, small⟩
    rw [List.eq_of_mem_replicate zero]
    decide
  · have zeros : ∀ count, digitsValue (List.replicate count 0) = 0 := by
      intro count
      induction count with
      | zero => rfl
      | succ count ih => exact ih
    have appended : ∀ front, digitsValue (front ++ digits) =
        digits.foldl (fun total digit => 16 * total + digit) (digitsValue front) :=
      fun _ => List.foldl_append
    rw [appended, zeros]
    exact same

theorem mapM_hexDigit? {digits : List Nat} (small : ∀ digit ∈ digits, digit < 16) :
    (digits.map Nat.digitChar).mapM hexDigit? = some digits := by
  induction digits with
  | nil => rfl
  | cons digit more ih =>
    obtain ⟨first, more⟩ := List.forall_mem_cons.1 small
    rw [List.map_cons, List.mapM_cons, (digitChar_cases first).1, ih more]
    rfl

theorem ofDigits?_digits {guid : Guid} {digits : List Nat} (full : digits.length = 32)
    (small : ∀ digit ∈ digits, digit < 16) (same : digitsValue digits = guid.number) :
    ofDigits? (digits.map Nat.digitChar) = some guid := by
  unfold digitsValue at same
  unfold ofDigits?
  rw [mapM_hexDigit? small, List.length_map, full]
  change (if h : digits.foldl (fun total digit => 16 * total + digit) 0 < Nat.pow 2 128
    then some (⟨⟨_, h⟩⟩ : Guid) else none) = some guid
  rw [dif_pos (same ▸ guid.number.isLt)]
  simp only [same]

/-! ## Groups -/

/-- The number of digits that groups of the given lengths hold. -/
def totalLength : List Nat → Nat
  | [] => 0
  | length :: lengths => length + totalLength lengths

theorem flatten_groups {lengths : List Nat} {digits : Text}
    (all : totalLength lengths = digits.length) : (groups lengths digits).flatten = digits := by
  induction lengths generalizing digits with
  | nil => exact (List.eq_nil_of_length_eq_zero all.symm).symm
  | cons length lengths ih =>
    have rest : totalLength lengths = (digits.drop length).length := by
      rw [List.length_drop, ← all, totalLength, Nat.add_sub_cancel_left]
    rw [groups, List.flatten_cons, ih rest, List.take_append_drop]

theorem map_length_groups {lengths : List Nat} {digits : Text}
    (all : totalLength lengths = digits.length) :
    (groups lengths digits).map List.length = lengths := by
  induction lengths generalizing digits with
  | nil => rfl
  | cons length lengths ih =>
    rw [totalLength] at all
    have rest : totalLength lengths = (digits.drop length).length := by
      rw [List.length_drop, ← all, Nat.add_sub_cancel_left]
    rw [groups, List.map_cons, ih rest, List.length_take, ← all,
      Nat.min_eq_left (Nat.le_add_right _ _)]

/-! ## The written form -/

theorem mem_of_mem_groups {lengths : List Nat} {digits group : Text} {c : Char}
    (all : totalLength lengths = digits.length) (isGroup : group ∈ groups lengths digits)
    (member : c ∈ group) : c ∈ digits := by
  rw [← flatten_groups all]
  exact List.mem_flatten_of_mem isGroup member

section Written

variable {guid : Guid} {digits : List Nat}
  (written : Numeral.padLeft 32 (Nat.toDigits 16 guid.number) = digits.map Nat.digitChar)
  (full : digits.length = 32) (small : ∀ digit ∈ digits, digit < 16)

include full in
theorem totalLength_groupLengths :
    totalLength groupLengths = (digits.map Nat.digitChar).length := by
  rw [List.length_map, full]
  rfl

include written full small

/-- Between the hyphens stand the groups of digits. -/
theorem pieces_text :
    Text.pieces '-' guid.text = groups groupLengths (digits.map Nat.digitChar) := by
  unfold text
  rw [written]
  refine Text.pieces_join (List.cons_ne_nil _ _) fun group isGroup member => ?_
  obtain ⟨digit, isDigit, same⟩ :=
    List.mem_map.1 (mem_of_mem_groups (totalLength_groupLengths full) isGroup member)
  exact (digitChar_cases (small digit isDigit)).2.1 same

/-- The written form begins with a digit. -/
theorem exists_text_cons : ∃ digit rest, digit < 16 ∧ guid.text = digit.digitChar :: rest := by
  cases digits with
  | nil => cases full
  | cons digit more =>
    unfold text
    rw [written]
    exact ⟨digit, _, small digit List.mem_cons_self, rfl⟩

end Written

/-- The written form of a GUID is read as this GUID. -/
theorem read?_text (guid : Guid) : read? guid.text = some guid := by
  obtain ⟨digits, written, full, small, same⟩ := guid.exists_digits
  have pieces := pieces_text written full small
  have all := totalLength_groupLengths full
  have grouped : readGroups? groupLengths guid.text = some guid := by
    unfold readGroups?
    dsimp only
    rw [pieces, map_length_groups all, flatten_groups all]
    exact (if_pos rfl).trans (ofDigits?_digits full small same)
  have ungrouped : readGroups? [32] guid.text = none := by
    unfold readGroups?
    dsimp only
    rw [pieces, map_length_groups all]
    rfl
  obtain ⟨digit, rest, isDigit, begins⟩ := exists_text_cons written full small
  obtain ⟨-, -, noBrace, noScheme, -⟩ := digitChar_cases isDigit
  have plain : Text.eqIgnoreAsciiCase "urn:uuid:".toList
      (guid.text.take "urn:uuid:".toList.length) = false := by
    rw [begins]
    exact decide_eq_false fun same => noScheme (List.head_eq_of_cons_eq same).symm
  unfold read?
  split
  · rename_i braced
    rw [braced] at begins
    exact absurd (List.head_eq_of_cons_eq begins).symm noBrace
  · dsimp only
    rw [plain, ungrouped, grouped]
    rfl

theorem isBare_text (guid : Guid) : guid.text.IsBare := by
  obtain ⟨digits, written, full, small, -⟩ := guid.exists_digits
  intro c member
  unfold text at member
  rw [written] at member
  rcases Text.mem_of_mem_join member with rfl | ⟨group, isGroup, within⟩
  · decide
  · obtain ⟨digit, isDigit, rfl⟩ :=
      List.mem_map.1 (mem_of_mem_groups (totalLength_groupLengths full) isGroup within)
    exact (digitChar_cases (small digit isDigit)).2.2.2.2

end Guid

end TextQuery
