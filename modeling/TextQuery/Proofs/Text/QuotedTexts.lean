import TextQuery.Proofs.Literal.Guids
import TextQuery.Text.Quoted

/-!
Quoted texts read back. Whatever a character between quotes is shown as, the character and all that
follows can be told from it (`takeQuoted?_append`), and it is never shown as the quote that ends the
text. So quoted texts and characters need nothing behind them that shows where they end. Main
statements: `quote_append_inj`, `quoteChar_append_inj`.
-/

namespace TextQuery

namespace Text

/-! ## One character between quotes -/

/-- Takes a code point in hexadecimal, up to a closing brace, and gives what follows that. -/
def takeCodePoint? (text : Text) : Option (Char × Text) :=
  ((text.takeWhile (· ≠ '\x7d')).mapM Guid.hexDigit?).map fun digits =>
    (Char.ofNat (Guid.digitsValue digits), (text.dropWhile (· ≠ '\x7d')).drop 1)

/-- Takes what follows a backslash: the character that the escape stands for, and the rest. -/
def takeEscape? : Text → Option (Char × Text)
  | [] => none
  | c :: rest =>
    if c = '0' then some ('\x00', rest)
    else if c = 't' then some ('\t', rest)
    else if c = 'n' then some ('\n', rest)
    else if c = 'r' then some ('\r', rest)
    else if c = 'u' then takeCodePoint? (rest.drop 1)
    else some (c, rest)

/-- Takes one character between quotes, and gives what follows. -/
def takeQuoted? : Text → Option (Char × Text)
  | [] => none
  | c :: rest => if c = '\\' then takeEscape? rest else some (c, rest)

theorem takeCodePoint?_append (c : Char) (rest : Text) :
    takeCodePoint? (Nat.toDigits 16 c.toNat ++ '\x7d' :: rest) = some (c, rest) := by
  obtain ⟨digits, written, small, value⟩ := Guid.exists_toDigits c.toNat
  have plain : ∀ d ∈ digits.map Nat.digitChar, decide (d ≠ '\x7d') = true := by
    have table : ∀ digit < 16, decide (digit.digitChar ≠ '\x7d') = true := by decide
    exact List.forall_mem_map.2 fun digit member => table digit (small digit member)
  have taken : ('\x7d' :: rest).takeWhile (· ≠ '\x7d') = [] := rfl
  have dropped : ('\x7d' :: rest).dropWhile (· ≠ '\x7d') = '\x7d' :: rest := rfl
  unfold takeCodePoint?
  rw [written, List.takeWhile_append_of_pos plain, List.dropWhile_append_of_pos plain, taken,
    dropped, List.append_nil, Guid.mapM_hexDigit? small, Option.map_some, value, Char.ofNat_toNat]
  rfl

section Quoted

variable {mark : Char} (isQuote : mark = '"' ∨ mark = '\'')

include isQuote

/-- A character and what follows it are told from how it is shown between quotes. -/
theorem takeQuoted?_append (c : Char) (rest : Text) :
    takeQuoted? (quotedChar mark c ++ rest) = some (c, rest) := by
  unfold quotedChar
  split
  · rename_i zero
    rw [zero]
    rfl
  split
  · rename_i tab
    rw [tab]
    rfl
  split
  · rename_i newLine
    rw [newLine]
    rfl
  split
  · rename_i carriageReturn
    rw [carriageReturn]
    rfl
  split
  · rename_i escaped
    rcases Bool.or_eq_true_iff.1 escaped with backslash | quote
    · rw [of_decide_eq_true backslash]
      rfl
    · rw [of_decide_eq_true quote]
      rcases isQuote with rfl | rfl <;> rfl
  rename_i other
  split
  · exact if_neg fun same => other (by rw [same]; rfl)
  · have opened : takeQuoted? (codePointEscape c ++ rest) =
        takeCodePoint? (Nat.toDigits 16 c.toNat ++ ['\x7d'] ++ rest) := rfl
    rw [opened, List.append_assoc, List.singleton_append, takeCodePoint?_append]

theorem quotedChar_append_inj {c d : Char} {rest rest' : Text}
    (same : quotedChar mark c ++ rest = quotedChar mark d ++ rest') : c = d ∧ rest = rest' := by
  have taken := congrArg takeQuoted? same
  rw [takeQuoted?_append isQuote, takeQuoted?_append isQuote] at taken
  exact Prod.mk.inj (Option.some.inj taken)

/-- The quote that ends a text is not how one of its characters begins. -/
theorem exists_quotedChar_cons (c : Char) :
    ∃ first more, quotedChar mark c = first :: more ∧ first ≠ mark := by
  have noBackslash : '\\' ≠ mark := by rcases isQuote with rfl | rfl <;> decide
  unfold quotedChar
  split
  · exact ⟨_, _, rfl, noBackslash⟩
  split
  · exact ⟨_, _, rfl, noBackslash⟩
  split
  · exact ⟨_, _, rfl, noBackslash⟩
  split
  · exact ⟨_, _, rfl, noBackslash⟩
  split
  · exact ⟨_, _, rfl, noBackslash⟩
  rename_i other
  split
  · exact ⟨_, _, rfl, fun same => other (by rw [same]; simp)⟩
  · exact ⟨_, _, rfl, noBackslash⟩

/-- Two runs of characters between quotes that end and go on in the same way are the same. -/
theorem flatMap_quotedChar_inj {text text' rest rest' : Text}
    (same : text.flatMap (quotedChar mark) ++ mark :: rest =
      text'.flatMap (quotedChar mark) ++ mark :: rest') : text = text' ∧ rest = rest' := by
  -- an end cannot be met where the other text still has a character
  have apart : ∀ (c : Char) (more after : Text), mark :: after ≠ quotedChar mark c ++ more := by
    intro c more after same
    obtain ⟨first, others, begins, different⟩ := exists_quotedChar_cons isQuote c
    rw [begins] at same
    exact different (List.head_eq_of_cons_eq same).symm
  induction text generalizing text' with
  | nil =>
    cases text' with
    | nil => exact ⟨rfl, (List.cons.inj same).2⟩
    | cons d more' =>
      rw [List.flatMap_cons, List.append_assoc] at same
      exact absurd same (apart _ _ _)
  | cons c more ih =>
    rw [List.flatMap_cons, List.append_assoc] at same
    cases text' with
    | nil => exact absurd same.symm (apart _ _ _)
    | cons d more' =>
      rw [List.flatMap_cons, List.append_assoc] at same
      obtain ⟨rfl, tails⟩ := quotedChar_append_inj isQuote same
      obtain ⟨rfl, sameRest⟩ := ih tails
      exact ⟨rfl, sameRest⟩

end Quoted

/-! ## Quoted texts and characters -/

/-- A quoted text tells what it quotes and where it ends. -/
theorem quote_append_inj {text text' rest rest' : Text}
    (same : quote text ++ rest = quote text' ++ rest') : text = text' ∧ rest = rest' := by
  unfold quote at same
  simp only [List.append_assoc, List.singleton_append] at same
  exact flatMap_quotedChar_inj (Or.inl rfl) (List.cons.inj same).2

/-- A quoted character tells what it quotes and where it ends. -/
theorem quoteChar_append_inj {c d : Char} {rest rest' : Text}
    (same : quoteChar c ++ rest = quoteChar d ++ rest') : c = d ∧ rest = rest' := by
  unfold quoteChar at same
  simp only [List.append_assoc, List.singleton_append] at same
  obtain ⟨rfl, tails⟩ := quotedChar_append_inj (Or.inr rfl) (List.cons.inj same).2
  exact ⟨rfl, (List.cons.inj tails).2⟩

end Text

end TextQuery
