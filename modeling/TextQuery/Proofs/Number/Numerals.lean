import Mathlib.Data.List.Induction
import TextQuery.Number.Integer

/-!
Numerals and the numbers that they denote. `Numeral.Denotes` reads digits from the left, each one
multiplying what came before it by ten, and `IntegerType.Spells` adds the sign that the literals of
an integer type can have. Reading a numeral gives the number that it denotes, and nothing else is
read (`Numeral.read?_eq_some_iff`, `IntegerType.read?_eq_some_iff`). What is written of a number
denotes it, with any number of zeros in front (`Numeral.denotes_fixed`,
`IntegerType.spells_ofInt`).
-/

namespace TextQuery

namespace Numeral

/-! ## Digits -/

/-- One or more decimal digits denote a number. -/
inductive Denotes : Text → Nat → Prop
  | digit {c : Char} : c.isDigit = true → Denotes [c] (c.toNat - '0'.toNat)
  | more {digits : Text} {n : Nat} {c : Char} :
    Denotes digits n → c.isDigit = true → Denotes (digits ++ [c]) (10 * n + (c.toNat - '0'.toNat))

theorem value_append_singleton (digits : Text) (c : Char) :
    value (digits ++ [c]) = 10 * value digits + (c.toNat - '0'.toNat) :=
  Nat.ofDigitChars_append 0

/-- Digits denote one number, which is their value. -/
theorem denotes_iff {text : Text} {n : Nat} :
    Denotes text n ↔ text ≠ [] ∧ text.all Char.isDigit = true ∧ value text = n := by
  refine ⟨?_, ?_⟩
  · intro denotes
    induction denotes with
    | @digit c isDigit =>
      refine ⟨List.cons_ne_nil _ _, by rw [List.all_cons, isDigit]; rfl, ?_⟩
      exact (value_append_singleton [] c).trans (Nat.zero_add _)
    | @more digits n c denotes isDigit ih =>
      obtain ⟨-, digits, rfl⟩ := ih
      refine ⟨List.append_ne_nil_of_right_ne_nil _ (List.cons_ne_nil _ _), ?_,
        value_append_singleton _ c⟩
      rw [List.all_append, digits, List.all_cons, isDigit]
      rfl
  · rintro ⟨nonempty, digits, rfl⟩
    induction text using List.reverseRecOn with
    | nil => exact absurd rfl nonempty
    | append_singleton front c ih =>
      rw [List.all_append, Bool.and_eq_true_iff, List.all_cons, Bool.and_eq_true_iff] at digits
      obtain ⟨digits, isDigit, -⟩ := digits
      rw [value_append_singleton]
      by_cases single : front = []
      · rw [single]
        have same : 10 * value [] + (c.toNat - '0'.toNat) = c.toNat - '0'.toNat := Nat.zero_add _
        rw [same]
        exact .digit isDigit
      · exact .more (ih single digits) isDigit

theorem read?_eq_some_iff {text : Text} {n : Nat} : read? text = some n ↔ Denotes text n := by
  rw [denotes_iff, ← and_assoc]
  unfold read?
  split
  · rename_i numeral
    rw [Option.some_inj, and_iff_right numeral]
  · rename_i other
    exact iff_of_false nofun fun parts => other parts.1

namespace Denotes

variable {digits : Text} {n : Nat} (denotes : Denotes digits n)

include denotes

theorem unique {n' : Nat} (denotes' : Denotes digits n') : n = n' := by
  obtain ⟨-, -, same⟩ := denotes_iff.1 denotes
  obtain ⟨-, -, same'⟩ := denotes_iff.1 denotes'
  rw [← same, same']

theorem isDigit_of_mem {c : Char} (member : c ∈ digits) : c.isDigit = true :=
  List.all_eq_true.1 (denotes_iff.1 denotes).2.1 c member

theorem exists_cons : ∃ c more, digits = c :: more ∧ c.isDigit = true := by
  obtain ⟨nonempty, -, -⟩ := denotes_iff.1 denotes
  obtain ⟨c, more, rfl⟩ := List.exists_cons_of_ne_nil nonempty
  exact ⟨c, more, rfl, denotes.isDigit_of_mem List.mem_cons_self⟩

/-- Zeros in front change nothing. -/
theorem zeros (count : Nat) : Denotes (List.replicate count '0' ++ digits) n := by
  induction denotes with
  | @digit c isDigit =>
    refine denotes_iff.2 ⟨List.append_ne_nil_of_right_ne_nil _ (List.cons_ne_nil _ _), ?_, ?_⟩
    · rw [List.all_append, List.all_cons, isDigit, Bool.and_eq_true_iff]
      exact ⟨List.all_eq_true.2 fun d zero => List.eq_of_mem_replicate zero ▸ rfl, rfl⟩
    · have nothing : value (List.replicate count '0') = 0 := Nat.ofDigitChars_replicate_zero
      rw [value_append_singleton, nothing]
      exact Nat.zero_add _
  | @more digits n c denotes isDigit ih =>
    rw [← List.append_assoc]
    exact .more ih isDigit

theorem padLeft (width : Nat) : Denotes (padLeft width digits) n :=
  denotes.zeros _

end Denotes

/-! ## What is written -/

theorem denotes_ofNat (n : Nat) : Denotes (ofNat n) n := by
  refine denotes_iff.2 ⟨Nat.toDigits_ne_nil, ?_, Nat.ofDigitChars_ten_toDigits⟩
  exact List.all_eq_true.2 fun c => Nat.isDigit_of_mem_toDigits (by decide) (by decide)

theorem denotes_fixed (width n : Nat) : Denotes (fixed width n) n :=
  (denotes_ofNat n).padLeft width

/-- A number that is small enough fills its width exactly. -/
theorem length_fixed {width n : Nat} (positive : 0 < width) (small : n < Nat.pow 10 width) :
    (fixed width n).length = width := by
  have short : (ofNat n).length ≤ width :=
    (Nat.length_toDigits_le_iff (by decide) positive).2 small
  unfold fixed Numeral.padLeft
  rw [List.length_append, List.length_replicate, Nat.sub_add_cancel short]

end Numeral

/-! ## Integers -/

namespace IntegerType

open Numeral (Denotes)

/-- The text is an integer literal of the type: digits, behind a plus sign or none, or behind a
minus sign if the type has negative numbers. The number may be out of the type's range. -/
inductive Spells (type : IntegerType) : Text → Int → Prop
  | unmarked {digits : Text} {n : Nat} : Denotes digits n → Spells type digits n
  | plus {digits : Text} {n : Nat} : Denotes digits n → Spells type ('+' :: digits) n
  | minus {digits : Text} {n : Nat} : type.isSigned = true → Denotes digits n →
    Spells type ('-' :: digits) (-n)

variable {type : IntegerType} {text : Text} {n : Int}

theorem readAny?_eq_some_iff : readAny? type.isSigned text = some n ↔ type.Spells text n := by
  have natural : ∀ {digits : Text} {n : Int}, (Numeral.read? digits).map Int.ofNat = some n ↔
      ∃ m : Nat, Denotes digits m ∧ (m : Int) = n := by
    intro digits n
    simp only [Option.map_eq_some_iff, Numeral.read?_eq_some_iff]
    rfl
  -- the sign is put before the number, which is an integer by then
  have negated : ∀ {digits : Text} {n : Int}, readAny? true ('-' :: digits) = some n ↔
      ∃ m : Nat, Denotes digits m ∧ -(m : Int) = n := by
    intro digits n
    have turned : readAny? true ('-' :: digits) =
        ((Numeral.read? digits).map Int.ofNat).map fun n => -n := by
      change (Numeral.read? digits >>= fun m => pure (m : Int)).map (fun n => -n) = _
      cases Numeral.read? digits <;> rfl
    simp only [turned, Option.map_map, Option.map_eq_some_iff, Numeral.read?_eq_some_iff]
    rfl
  refine ⟨?_, ?_⟩
  · intro read
    unfold readAny? at read
    split at read
    · obtain ⟨m, denotes, rfl⟩ := natural.1 read
      exact .plus denotes
    · split at read
      · rename_i signed
        obtain ⟨m, denotes, rfl⟩ := negated.1 read
        exact .minus signed denotes
      · cases read
    · obtain ⟨m, denotes, rfl⟩ := natural.1 read
      exact .unmarked denotes
  · intro spells
    cases spells with
    | unmarked denotes =>
      obtain ⟨c, more, rfl, isDigit⟩ := denotes.exists_cons
      unfold readAny?
      split
      · rename_i sign
        cases sign
        exact absurd isDigit (by decide)
      · rename_i sign
        cases sign
        exact absurd isDigit (by decide)
      · exact natural.2 ⟨_, denotes, rfl⟩
    | plus denotes => exact natural.2 ⟨_, denotes, rfl⟩
    | minus signed denotes =>
      rw [signed]
      exact negated.2 ⟨_, denotes, rfl⟩

theorem Spells.unique {n' : Int} (spells : type.Spells text n) (spells' : type.Spells text n') :
    n = n' :=
  Option.some.inj ((readAny?_eq_some_iff.2 spells).symm.trans (readAny?_eq_some_iff.2 spells'))

theorem read?_eq_some_iff :
    type.read? text = some n ↔ type.Spells text n ∧ type.low ≤ n ∧ n ≤ type.high := by
  unfold read?
  rw [Option.filter_eq_some_iff, readAny?_eq_some_iff, Bool.and_eq_true_iff, decide_eq_true_iff,
    decide_eq_true_iff]

/-- What is written of an integer spells it, unless it is negative and the type has no negative
numbers. -/
theorem spells_ofInt (allowed : type.isSigned = true ∨ 0 ≤ n) :
    type.Spells (Numeral.ofInt n) n := by
  have written := Numeral.denotes_ofNat n.natAbs
  unfold Numeral.ofInt
  split
  · rename_i negative
    have spells := Spells.minus (allowed.resolve_right (Int.not_le.2 negative)) written
    rwa [Int.ofNat_natAbs_of_nonpos (Int.le_of_lt negative), Int.neg_neg] at spells
  · rename_i positive
    have spells : type.Spells (Numeral.ofNat n.natAbs) n.natAbs := .unmarked written
    rwa [Int.natAbs_of_nonneg (Int.not_lt.1 positive)] at spells

end IntegerType

end TextQuery
