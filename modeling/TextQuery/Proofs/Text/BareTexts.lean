import TextQuery.Proofs.Text.Splitting

/-!
Texts that are written without quotes: those of numbers, dates, instants, GUIDs and the like. Their
characters are few (`bareCharacters`), and neither white space nor parentheses are among them. So a
bare text is left as it is by trimming, and in a rendering it ends where a space or a closing
parenthesis comes next. Main statement: what begins with a text that holds neither and goes on with
one of them is divided in one way only (`append_inj_of_closes`).
-/

namespace TextQuery

namespace Text

/-- Decides a property of all characters of a text by going through the text, not through all
characters that there are. -/
@[reducible] def decidableForall (p : Char → Prop) [DecidablePred p] (text : Text) :
    Decidable (∀ c ∈ text, p c) :=
  decidable_of_iff (text.all fun c => decide (p c))
    (List.all_eq_true.trans (forall₂_congr fun _ _ => decide_eq_true_iff))

/-! ## Bare texts -/

/-- The characters of values that are written without quotes: of numbers, of dates and times, of the
digits of GUIDs and of the two truth values. -/
def bareCharacters : Text :=
  "+-.0123456789:Tabcdeflrstu".toList

/-- The text holds no other characters than those of values without quotes. -/
def IsBare (text : Text) : Prop :=
  ∀ c ∈ text, c ∈ bareCharacters

instance (text : Text) : Decidable text.IsBare :=
  decidableForall (· ∈ bareCharacters) text

theorem isBare_append {left right : Text} : IsBare (left ++ right) ↔ left.IsBare ∧ right.IsBare :=
  List.forall_mem_append

theorem isBare_cons {c : Char} {rest : Text} :
    IsBare (c :: rest) ↔ c ∈ bareCharacters ∧ rest.IsBare :=
  List.forall_mem_cons

theorem mem_bareCharacters_of_isDigit {c : Char} (isDigit : c.isDigit = true) :
    c ∈ bareCharacters := by
  have table : (List.range 58).all fun n =>
      !(Char.ofNat n).isDigit || decide (Char.ofNat n ∈ bareCharacters) := by decide +kernel
  have small : c.toNat < 58 := Nat.lt_succ_of_le (Char.isDigit_iff_toNat.1 isDigit).2
  have entry := List.all_eq_true.1 table c.toNat (List.mem_range.2 small)
  rw [Char.ofNat_toNat, isDigit] at entry
  exact of_decide_eq_true entry

theorem isWhiteSpace_of_bare {c : Char} (bare : c ∈ bareCharacters) : isWhiteSpace c = false := by
  have table : bareCharacters.all fun c => !isWhiteSpace c := by decide +kernel
  exact Bool.not_eq_true' _ ▸ List.all_eq_true.1 table c bare

theorem IsBare.trim {text : Text} (bare : text.IsBare) : text.trim = text :=
  trim_of_visible fun c member => isWhiteSpace_of_bare (bare c member)

/-! ## Where texts end in renderings -/

/-- The characters before which a text without quotes ends. -/
def closers : Text :=
  [' ', ')']

/-- Nothing in the text closes it. -/
def IsUnbroken (text : Text) : Prop :=
  ∀ c ∈ text, c ∉ closers

instance (text : Text) : Decidable text.IsUnbroken :=
  decidableForall (· ∉ closers) text

/-- What can follow a text without quotes in a rendering. -/
def Closes (rest : Text) : Prop :=
  ∀ c, rest.head? = some c → c ∈ closers

theorem closes_nil : Closes [] :=
  nofun

theorem closes_space (rest : Text) : Closes (' ' :: rest) := by
  rintro _ ⟨⟩
  decide

theorem closes_parenthesis (rest : Text) : Closes (')' :: rest) := by
  rintro _ ⟨⟩
  decide

theorem IsBare.isUnbroken {text : Text} (bare : text.IsBare) : text.IsUnbroken := by
  have table : IsUnbroken bareCharacters := by decide
  exact fun c member => table c (bare c member)

/-- A text in which nothing closes is what stands in front of the first character that does. -/
theorem append_inj_of_closes {text text' rest rest' : Text} (unbroken : text.IsUnbroken)
    (unbroken' : text'.IsUnbroken) (closes : Closes rest) (closes' : Closes rest')
    (same : text ++ rest = text' ++ rest') : text = text' ∧ rest = rest' := by
  induction text generalizing text' with
  | nil =>
    cases text' with
    | nil => exact ⟨rfl, same⟩
    | cons c more =>
      have first : rest.head? = some c := congrArg List.head? same
      exact absurd (closes c first) (unbroken' c List.mem_cons_self)
  | cons c more ih =>
    cases text' with
    | nil =>
      have first : rest'.head? = some c := congrArg List.head? same.symm
      exact absurd (closes' c first) (unbroken c List.mem_cons_self)
    | cons d more' =>
      obtain ⟨rfl, tails⟩ := List.cons.inj same
      obtain ⟨sameMore, sameRest⟩ := ih (List.forall_mem_cons.1 unbroken).2
        (List.forall_mem_cons.1 unbroken').2 tails
      exact ⟨congrArg (c :: ·) sameMore, sameRest⟩

theorem IsBare.append_inj {text text' rest rest' : Text} (bare : text.IsBare)
    (bare' : text'.IsBare) (closes : Closes rest) (closes' : Closes rest')
    (same : text ++ rest = text' ++ rest') : text = text' ∧ rest = rest' :=
  append_inj_of_closes bare.isUnbroken bare'.isUnbroken closes closes' same

end Text

end TextQuery
