import TextQuery.Proofs.Text.Occurrence
import TextQuery.Text.LowerCase

/-!
Lower case of a text that stands inside another one. Every character has a lower-case form of its
own, except for the capital sigma, which takes its final form at the end of a word. So the
lower-case form of a text is the same wherever it stands, if the text itself settles the forms of
its sigmas (`lowerBetween_of_settled`), and this is exactly when a text that contains it still does
so after both are lower-cased. Main statement: `sigmasSettled_iff`.
-/

namespace TextQuery

namespace Text

/-! ## Lower case between two texts -/

/-- The lower-case form of one character between `before` (nearest first) and `after`. -/
def lowerAt (before : Text) (c : Char) (after : Text) : Text :=
  if c = 'İ' then ['i', '\u0307']
  else if c = 'Σ' then [if endsWord before after then 'ς' else 'σ']
  else [lowerChar c]

/-- The lower-case form of a text between `before` (nearest first) and `after`. -/
def lowerBetween (after : Text) (before : Text) : Text → Text
  | [] => []
  | c :: rest => lowerAt before c (rest ++ after) ++ lowerBetween after (c :: before) rest

theorem lowerBetween_nil (before text : Text) :
    lowerBetween [] before text = lowerAfter before text := by
  induction text generalizing before with
  | nil => rfl
  | cons c rest ih =>
    rw [lowerBetween, ih, List.append_nil]
    rfl

theorem lowerBetween_append (after before first second : Text) :
    lowerBetween after before (first ++ second) =
      lowerBetween (second ++ after) before first ++
        lowerBetween after (first.reverse ++ before) second := by
  induction first generalizing before with
  | nil => rfl
  | cons c rest ih =>
    rw [List.cons_append, lowerBetween, lowerBetween, ih, List.append_assoc, List.append_assoc,
      List.reverse_cons, List.append_assoc]
    rfl

/-- A text has its lower-case form between its neighbours, as a part of that of the whole. -/
theorem lower_append (before text after : Text) :
    lower (before ++ text ++ after) =
      lowerBetween (text ++ after) [] before ++ lowerBetween after before.reverse text ++
        lowerAfter (text.reverse ++ before.reverse) after := by
  unfold lower
  rw [← lowerBetween_nil, lowerBetween_append, lowerBetween_append, lowerBetween_nil]
  simp only [List.append_nil, List.reverse_append]

theorem lowerAt_congr {before after before' after' : Text} {c : Char}
    (same : c = 'Σ' → endsWord before after = endsWord before' after') :
    lowerAt before c after = lowerAt before' c after' := by
  unfold lowerAt
  by_cases sigma : c = 'Σ'
  · rw [same sigma]
  · rw [if_neg sigma, if_neg sigma]

/-- The lower-case form depends on the neighbours only through the ends of words at sigmas. -/
theorem lowerBetween_congr {text before after before' after' : Text}
    (same : ∀ front rest, text = front ++ 'Σ' :: rest →
      endsWord (front.reverse ++ before) (rest ++ after) =
        endsWord (front.reverse ++ before') (rest ++ after')) :
    lowerBetween after before text = lowerBetween after' before' text := by
  induction text generalizing before before' with
  | nil => rfl
  | cons c more ih =>
    have here : lowerAt before c (more ++ after) = lowerAt before' c (more ++ after') :=
      lowerAt_congr fun sigma => same [] more (by rw [sigma, List.nil_append])
    have later :
        lowerBetween after (c :: before) more = lowerBetween after' (c :: before') more := by
      refine ih fun front rest cut => ?_
      have shifted := same (c :: front) rest (by rw [cut, List.cons_append])
      simpa using shifted
    rw [lowerBetween, lowerBetween, here, later]

theorem lowerBetween_of_not_mem {text before after before' after' : Text} (none : 'Σ' ∉ text) :
    lowerBetween after before text = lowerBetween after' before' text := by
  refine lowerBetween_congr fun front rest cut => ?_
  exact absurd (cut ▸ List.mem_append_right _ List.mem_cons_self) none

/-! ## What settles the form of a sigma -/

/-- The first character that is not case-ignorable. -/
def nearest? (text : Text) : Option Char :=
  (text.dropWhile (inRanges caseIgnorableRanges)).head?

theorem meetsCased_eq (text : Text) :
    meetsCased text = (nearest? text).any (inRanges casedRanges) :=
  rfl

theorem nearest?_append (text more : Text) :
    nearest? (text ++ more) = (nearest? text).or (nearest? more) := by
  unfold nearest?
  rw [List.dropWhile_append]
  cases kept : text.dropWhile (inRanges caseIgnorableRanges) <;> simp

theorem nearest?_sigma (text : Text) : nearest? ('Σ' :: text) = some 'Σ' := by
  have counts : inRanges caseIgnorableRanges 'Σ' = false := by decide +kernel
  simp [nearest?, counts]

theorem meetsCased_of_nearest? {text : Text} (none : nearest? text = none) :
    meetsCased text = false := by
  simp [meetsCased_eq, none]

/-- What stands behind the nearest character does not count. -/
theorem meetsCased_append {text : Text} (some : (nearest? text).isSome = true) (more : Text) :
    meetsCased (text ++ more) = meetsCased text := by
  obtain ⟨c, found⟩ := Option.isSome_iff_exists.1 some
  simp [meetsCased_eq, nearest?_append, found]

theorem meetsCased_append_of_none {text : Text} (none : nearest? text = none) (more : Text) :
    meetsCased (text ++ more) = meetsCased more := by
  simp [meetsCased_eq, nearest?_append, none]

theorem sigma_not_mem_of_nearest? {text : Text} (none : nearest? text = none) : 'Σ' ∉ text := by
  intro member
  obtain ⟨front, rest, rfl⟩ := List.append_of_mem member
  rw [nearest?_append, nearest?_sigma] at none
  cases front : nearest? front <;> simp [front] at none

/-- Whether the form of a sigma between `before` (nearest first) and `after` is settled by these
texts, whatever stands around them: it does not end a word as a cased letter follows or as
something else comes before it, or there are characters that count on both sides of it. -/
def SettlesSigma (before after : Text) : Prop :=
  meetsCased after = true ∨
    (nearest? before).isSome = true ∧ (meetsCased before = false ∨ (nearest? after).isSome = true)

instance (before after : Text) : Decidable (SettlesSigma before after) :=
  inferInstanceAs (Decidable (_ ∨ _))

theorem SettlesSigma.endsWord_append {before after : Text} (settles : SettlesSigma before after)
    (before' after' : Text) :
    endsWord (before ++ before') (after ++ after') = endsWord before after := by
  unfold endsWord
  rcases settles with follows | ⟨precedes, uncased | follows⟩
  · have counts : (nearest? after).isSome = true := by
      rw [meetsCased_eq] at follows
      cases found : nearest? after <;> simp [found] at follows ⊢
    rw [meetsCased_append counts, follows]
    simp
  · rw [meetsCased_append precedes, uncased]
    simp
  · rw [meetsCased_append precedes, meetsCased_append follows]

/-- Whether a text settles the forms of all its sigmas. -/
def SigmasSettled (text : Text) : Prop :=
  ∀ front rest, text = front ++ 'Σ' :: rest → SettlesSigma front.reverse rest

instance : DecidablePred SigmasSettled := fun text =>
  decidable_of_iff (∀ i < text.length, text[i]? = some 'Σ' →
      SettlesSigma (text.take i).reverse (text.drop (i + 1))) <| by
    constructor
    · rintro each front rest rfl
      simpa using each front.length (by simp) (by simp)
    · intro settled i _ sigma
      obtain ⟨within, here⟩ := List.getElem?_eq_some_iff.1 sigma
      refine settled _ _ ?_
      rw [← here, ← List.drop_eq_getElem_cons within, List.take_append_drop]

/-- A text that settles the forms of its sigmas has one lower-case form wherever it stands. -/
theorem lowerBetween_of_settled {text : Text} (settled : SigmasSettled text)
    (before after : Text) : lowerBetween after before text = text.lower := by
  unfold lower
  rw [← lowerBetween_nil]
  refine lowerBetween_congr fun front rest cut => ?_
  have settles := settled front rest cut
  rw [settles.endsWord_append, settles.endsWord_append]

/-! ## Texts inside others -/

theorem contains_iff {text needle : Text} : contains text needle = true ↔ needle <:+: text :=
  isSome_cutAt?_iff

theorem contains_lower_of_settled {text needle : Text} (settled : SigmasSettled needle)
    (found : contains text needle = true) : contains text.lower needle.lower = true := by
  obtain ⟨before, after, rfl⟩ := contains_iff.1 found
  rw [contains_iff, lower_append, lowerBetween_of_settled settled]
  exact ⟨_, _, rfl⟩

/-- Where the neighbours change the form of one sigma and nothing else, one form occurs less often
than in the text on its own. -/
theorem exists_count_lt {front rest before after : Text}
    (sameFront : lowerBetween ('Σ' :: rest ++ after) before front =
      lowerBetween ('Σ' :: rest) [] front)
    (sameRest : lowerBetween after ('Σ' :: (front.reverse ++ before)) rest =
      lowerBetween [] ('Σ' :: front.reverse) rest)
    (changes : endsWord (front.reverse ++ before) (rest ++ after) ≠ endsWord front.reverse rest) :
    ∃ c ∈ ['σ', 'ς'], (lowerBetween after before (front ++ 'Σ' :: rest)).count c <
      (lower (front ++ 'Σ' :: rest)).count c := by
  have form : ∀ before after, lowerAt before 'Σ' after =
      [if endsWord before after then 'ς' else 'σ'] := fun _ _ => rfl
  have alone : lower (front ++ 'Σ' :: rest) = lowerBetween ('Σ' :: rest) [] front ++
      ([if endsWord front.reverse rest then 'ς' else 'σ'] ++
        lowerBetween [] ('Σ' :: front.reverse) rest) := by
    unfold lower
    rw [← lowerBetween_nil, lowerBetween_append, lowerBetween, form, List.append_nil,
      List.append_nil, List.append_nil]
  have within : lowerBetween after before (front ++ 'Σ' :: rest) =
      lowerBetween ('Σ' :: rest) [] front ++
        ([if endsWord (front.reverse ++ before) (rest ++ after) then 'ς' else 'σ'] ++
          lowerBetween [] ('Σ' :: front.reverse) rest) := by
    rw [lowerBetween_append, lowerBetween, form, sameFront, sameRest]
  rw [alone, within]
  cases ends : endsWord front.reverse rest with
  | true =>
    rw [ends] at changes
    refine ⟨'ς', by decide, ?_⟩
    simp [Bool.eq_false_iff.2 changes, List.count_append]
  | false =>
    rw [ends] at changes
    refine ⟨'σ', by decide, ?_⟩
    simp [Bool.ne_false_iff.1 changes, List.count_append]

/-! ## A letter next to a text -/

theorem meetsCased_a (text : Text) : meetsCased ('a' :: text) = true := by
  have counts : inRanges caseIgnorableRanges 'a' = false := by decide +kernel
  have cased : inRanges casedRanges 'a' = true := by decide +kernel
  simp [meetsCased_eq, nearest?, counts, cased]

theorem lowerAt_a (before after : Text) : lowerAt before 'a' after = ['a'] := by
  have own : lowerChar 'a' = 'a' := by decide +kernel
  simp [lowerAt, own]

theorem lower_cons_a (text : Text) : lower ('a' :: text) = 'a' :: lowerBetween [] ['a'] text := by
  unfold lower
  rw [← lowerBetween_nil, lowerBetween, lowerAt_a]
  rfl

theorem lower_append_a (text : Text) :
    lower (text ++ ['a']) = lowerBetween ['a'] [] text ++ ['a'] := by
  unfold lower
  rw [← lowerBetween_nil, lowerBetween_append, lowerBetween, lowerAt_a]
  rfl

section Unsettled

variable {front rest : Text}

/-- A sigma with nothing that counts before it, nor a cased letter after it, ends a word behind a
letter and nowhere else. -/
theorem exists_count_lt_of_letter_before (nothing : nearest? front.reverse = none)
    (uncased : meetsCased rest = false) :
    ∃ c, (lower ('a' :: (front ++ 'Σ' :: rest))).count c <
      (lower (front ++ 'Σ' :: rest)).count c := by
  have sameFront : lowerBetween ('Σ' :: rest ++ []) ['a'] front =
      lowerBetween ('Σ' :: rest) [] front :=
    lowerBetween_of_not_mem (by simpa using sigma_not_mem_of_nearest? nothing)
  have sameRest : lowerBetween [] ('Σ' :: (front.reverse ++ ['a'])) rest =
      lowerBetween [] ('Σ' :: front.reverse) rest := by
    refine lowerBetween_congr fun more last _ => ?_
    have counts : (nearest? (more.reverse ++ 'Σ' :: front.reverse)).isSome = true := by
      simp [nearest?_append, nearest?_sigma]
    have farther : more.reverse ++ 'Σ' :: (front.reverse ++ ['a']) =
        (more.reverse ++ 'Σ' :: front.reverse) ++ ['a'] := by simp
    unfold endsWord
    rw [farther, meetsCased_append counts]
  have changes : endsWord (front.reverse ++ ['a']) (rest ++ []) ≠ endsWord front.reverse rest := by
    unfold endsWord
    rw [List.append_nil, uncased, meetsCased_append_of_none nothing, meetsCased_a,
      meetsCased_of_nearest? nothing]
    decide
  obtain ⟨c, isForm, fewer⟩ := exists_count_lt sameFront sameRest changes
  have other : 'a' ≠ c := by
    rintro rfl
    exact absurd isForm (by decide)
  refine ⟨c, ?_⟩
  rw [lower_cons_a, List.count_cons_of_ne other]
  exact fewer

/-- A sigma with a cased letter before it and nothing that counts after it ends a word, but not in
front of a letter. -/
theorem exists_count_lt_of_letter_after (cased : meetsCased front.reverse = true)
    (nothing : nearest? rest = none) :
    ∃ c, (lower (front ++ 'Σ' :: rest ++ ['a'])).count c <
      (lower (front ++ 'Σ' :: rest)).count c := by
  have sameFront : lowerBetween ('Σ' :: rest ++ ['a']) [] front =
      lowerBetween ('Σ' :: rest) [] front := by
    refine lowerBetween_congr fun first more _ => ?_
    have counts : (nearest? (more ++ 'Σ' :: rest)).isSome = true := by
      simp [nearest?_append, nearest?_sigma]
    have farther : more ++ ('Σ' :: rest ++ ['a']) = (more ++ 'Σ' :: rest) ++ ['a'] := by simp
    unfold endsWord
    rw [farther, meetsCased_append counts]
  have sameRest : lowerBetween ['a'] ('Σ' :: (front.reverse ++ [])) rest =
      lowerBetween [] ('Σ' :: front.reverse) rest :=
    lowerBetween_of_not_mem (sigma_not_mem_of_nearest? nothing)
  have changes : endsWord (front.reverse ++ []) (rest ++ ['a']) ≠ endsWord front.reverse rest := by
    unfold endsWord
    rw [List.append_nil, cased, meetsCased_append_of_none nothing, meetsCased_a,
      meetsCased_of_nearest? nothing]
    decide
  obtain ⟨c, isForm, fewer⟩ := exists_count_lt sameFront sameRest changes
  have other : c ∉ ['a'] := by
    rw [List.mem_singleton]
    rintro rfl
    exact absurd isForm (by decide)
  refine ⟨c, ?_⟩
  rw [lower_append_a, List.count_append, List.count_eq_zero_of_not_mem other, Nat.add_zero]
  exact fewer

theorem contains_eq_false_of_count {text needle : Text} {c : Char}
    (fewer : text.count c < needle.count c) : contains text needle = false := by
  rw [Bool.eq_false_iff, Ne, contains_iff]
  intro occurs
  have := occurs.sublist.count_le c
  omega

/-- If the form of a sigma is not settled, a text with one letter more loses it in lower case. -/
theorem exists_text_of_unsettled (unsettled : ¬ SettlesSigma front.reverse rest) :
    ∃ text, contains text (front ++ 'Σ' :: rest) = true ∧
      contains text.lower (front ++ 'Σ' :: rest).lower = false := by
  obtain ⟨uncased, undecided⟩ := not_or.1 unsettled
  rw [Bool.not_eq_true] at uncased
  cases precedes : nearest? front.reverse with
  | none =>
    obtain ⟨c, fewer⟩ := exists_count_lt_of_letter_before precedes uncased
    refine ⟨'a' :: (front ++ 'Σ' :: rest), contains_iff.2 ?_, contains_eq_false_of_count fewer⟩
    exact (List.suffix_cons _ _).isInfix
  | some d =>
    rw [precedes] at undecided
    simp only [Option.isSome_some, true_and, not_or, Bool.not_eq_false, Bool.not_eq_true,
      Option.isSome_eq_false_iff, Option.isNone_iff_eq_none] at undecided
    obtain ⟨c, fewer⟩ := exists_count_lt_of_letter_after undecided.1 undecided.2
    refine ⟨front ++ 'Σ' :: rest ++ ['a'], contains_iff.2 ?_, contains_eq_false_of_count fewer⟩
    exact (List.prefix_append _ _).isInfix

end Unsettled

/-- A text settles the forms of its sigmas exactly if every text that contains it still does so once
both are lower-cased. -/
theorem sigmasSettled_iff {needle : Text} :
    SigmasSettled needle ↔
      ∀ text, contains text needle = true → contains text.lower needle.lower = true := by
  constructor
  · intro settled text found
    exact contains_lower_of_settled settled found
  · intro kept front rest cut
    refine Decidable.byContradiction fun unsettled => ?_
    obtain ⟨text, found, lost⟩ := exists_text_of_unsettled unsettled
    rw [← cut] at found lost
    rw [kept text found] at lost
    cases lost

end Text

end TextQuery
