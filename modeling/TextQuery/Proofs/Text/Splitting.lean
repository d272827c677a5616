import TextQuery.Text.Basic
import Mathlib.Data.List.DropRight

/-!
Cutting a text at a separator, against joining and against trimming. Main statements: parts without
the separator come back from their joined text (`pieces_join`), and trimming a text before it is cut
changes nothing once the pieces are trimmed (`map_trim_pieces_trim`).
-/

namespace TextQuery

namespace Text

/-! ## Cutting against joining -/

section Separator

variable {separator : Char}

theorem pieces_eq_splitOn (text : Text) : pieces separator text = text.splitOn separator := by
  induction text with
  | nil => rfl
  | cons c rest ih =>
    rw [pieces, ih, List.splitOn, List.splitOn, List.splitOnP_cons_eq_if_modifyHead]
    by_cases same : c = separator
    · rw [if_pos same, if_pos (beq_iff_eq.2 same)]
    · rw [if_neg same, if_neg (mt beq_iff_eq.1 same)]
      cases cut : List.splitOnP (· == separator) rest with
      | nil => exact absurd cut (List.splitOnP_ne_nil _ _)
      | cons piece more => rfl

theorem join_singleton (separator part : Text) : join separator [part] = part :=
  List.intercalate_singleton

/-- Parts that do not hold the separator are the pieces of their joined text. -/
theorem pieces_join {parts : List Text} (nonempty : parts ≠ [])
    (clean : ∀ part ∈ parts, separator ∉ part) :
    pieces separator (join [separator] parts) = parts := by
  rw [pieces_eq_splitOn]
  exact List.splitOn_intercalate separator clean nonempty

theorem mem_of_mem_join {parts : List Text} {c : Char} (member : c ∈ join [separator] parts) :
    c = separator ∨ ∃ part ∈ parts, c ∈ part := by
  induction parts with
  | nil => cases member
  | cons first more ih =>
    cases more with
    | nil => exact Or.inr ⟨first, List.mem_cons_self, by simpa [join] using member⟩
    | cons second rest =>
      rw [join, List.intercalate_cons_cons, List.append_assoc] at member
      rcases List.mem_append.1 member with within | member
      · exact Or.inr ⟨first, List.mem_cons_self, within⟩
      rcases List.mem_cons.1 member with same | member
      · exact Or.inl same
      rcases ih member with same | ⟨part, isPart, within⟩
      · exact Or.inl same
      · exact Or.inr ⟨part, List.mem_cons_of_mem _ isPart, within⟩

/-- A part stands in the joined text as a whole. -/
theorem isInfix_join_of_mem {parts : List Text} {part : Text} (isPart : part ∈ parts) :
    part <:+: join [separator] parts := by
  induction parts with
  | nil => cases isPart
  | cons first more ih =>
    cases more with
    | nil =>
      have same : join [separator] [first] = part :=
        (join_singleton _ _).trans (List.mem_singleton.1 isPart).symm
      exact same ▸ List.infix_rfl
    | cons second rest =>
      rw [join, List.intercalate_cons_cons]
      rcases List.mem_cons.1 isPart with rfl | isPart
      · rw [List.append_assoc]
        exact (List.prefix_append _ _).isInfix
      · exact (ih isPart).trans (List.suffix_append _ _).isInfix

theorem mem_join_of_mem {parts : List Text} {part : Text} {c : Char} (isPart : part ∈ parts)
    (member : c ∈ part) : c ∈ join [separator] parts :=
  (isInfix_join_of_mem isPart).subset member

theorem isInfix_of_mem_pieces {text piece : Text} (isPiece : piece ∈ pieces separator text) :
    piece <:+: text := by
  have within : piece <:+: join [separator] (pieces separator text) := isInfix_join_of_mem isPiece
  rwa [join_pieces] at within

/-! ## Cutting against padding -/

theorem pieces_append_left {lead : Text} (clean : separator ∉ lead) (text : Text) :
    pieces separator (lead ++ text) = (pieces separator text).modifyHead (lead ++ ·) := by
  induction lead with
  | nil =>
    rw [List.nil_append]
    cases pieces separator text <;> rfl
  | cons c lead ih =>
    obtain ⟨different, clean⟩ := List.ne_and_not_mem_of_not_mem_cons clean
    rw [List.cons_append, pieces, if_neg (Ne.symm different), ih clean]
    cases cut : pieces separator text with
    | nil => exact absurd cut (pieces_ne_nil _ _)
    | cons piece more => rfl

theorem exists_pieces_append_right {trail : Text} (clean : separator ∉ trail) (text : Text) :
    ∃ before last, pieces separator text = before ++ [last] ∧
      pieces separator (text ++ trail) = before ++ [last ++ trail] := by
  induction text with
  | nil =>
    refine ⟨[], [], rfl, ?_⟩
    have whole := pieces_append_left clean []
    rw [List.append_nil] at whole
    rw [List.nil_append, whole]
    simp [pieces]
  | cons c rest ih =>
    obtain ⟨before, last, plain, padded⟩ := ih
    rw [List.cons_append, pieces, pieces, plain, padded]
    by_cases same : c = separator
    · rw [if_pos same, if_pos same]
      exact ⟨[] :: before, last, rfl, rfl⟩
    · rw [if_neg same, if_neg same]
      cases before with
      | nil => exact ⟨[], c :: last, rfl, rfl⟩
      | cons piece before => exact ⟨(c :: piece) :: before, last, rfl, rfl⟩

/-! ## The first piece -/

/-- The first piece is what stands in front of the first separator. -/
theorem pieces_eq_cons (text : Text) :
    pieces separator text = text.takeWhile (· ≠ separator) ::
      (pieces separator text).tail := by
  induction text with
  | nil => rfl
  | cons c rest ih =>
    rw [pieces]
    by_cases same : c = separator
    · simp [same]
    · rw [ih]
      simp [same]

/-- The other pieces are those of what follows the first separator. -/
theorem tail_pieces_of_dropWhile {text more : Text} {c : Char}
    (left : text.dropWhile (· ≠ separator) = c :: more) :
    c = separator ∧ (pieces separator text).tail = pieces separator more := by
  induction text with
  | nil => cases left
  | cons d rest ih =>
    by_cases same : d = separator
    · rw [List.dropWhile_cons, if_neg (by simpa using same)] at left
      cases left
      exact ⟨same, by rw [pieces, if_pos same, List.tail_cons]⟩
    · rw [List.dropWhile_cons, if_pos (by simpa using same)] at left
      obtain ⟨here, others⟩ := ih left
      refine ⟨here, ?_⟩
      rw [← others, pieces, if_neg same, pieces_eq_cons rest]
      rfl

theorem tail_pieces_of_dropWhile_nil {text : Text}
    (nothing : text.dropWhile (· ≠ separator) = []) : (pieces separator text).tail = [] := by
  have clean : separator ∉ text := by
    intro member
    have differs := dropWhile_eq_nil_iff.1 nothing separator member
    simp at differs
  have whole := pieces_append_left clean []
  rw [List.append_nil] at whole
  rw [whole]
  rfl

end Separator

/-! ## Trimming -/

theorem trim_of_visible {text : Text} (visible : ∀ c ∈ text, isWhiteSpace c = false) :
    text.trim = text := by
  have kept : ∀ {text : Text}, (∀ c ∈ text, isWhiteSpace c = false) →
      text.dropWhile isWhiteSpace = text := by
    intro text visible
    cases text with
    | nil => rfl
    | cons c rest =>
      rw [List.dropWhile_cons, visible c List.mem_cons_self, if_neg Bool.false_ne_true]
  unfold trim trimEnd trimStart
  rw [kept visible, kept fun c member => visible c (List.mem_reverse.1 member),
    List.reverse_reverse]

theorem trim_append_left {lead : Text} (blank : lead.isBlank = true) (text : Text) :
    trim (lead ++ text) = trim text := by
  unfold trim trimStart
  rw [List.dropWhile_append_of_pos (List.all_eq_true.1 blank)]

theorem trimEnd_append_right {trail : Text} (blank : trail.isBlank = true) (text : Text) :
    trimEnd (text ++ trail) = trimEnd text := by
  unfold trimEnd
  rw [List.reverse_append, List.dropWhile_append_of_pos]
  intro c member
  exact List.all_eq_true.1 blank c (List.mem_reverse.1 member)

theorem trim_append_right {trail : Text} (blank : trail.isBlank = true) (text : Text) :
    trim (text ++ trail) = trim text := by
  unfold trim
  by_cases nothing : text.trimStart = []
  · -- a blank text is dropped whole from the front, and the padding with it
    have white : ∀ c ∈ text, isWhiteSpace c = true := dropWhile_eq_nil_iff.1 nothing
    unfold trimStart at nothing ⊢
    rw [List.dropWhile_append_of_pos white, nothing,
      dropWhile_eq_nil_iff.2 (List.all_eq_true.1 blank)]
  · have kept : trimStart (text ++ trail) = trimStart text ++ trail := by
      unfold trimStart at nothing ⊢
      rw [List.dropWhile_append, if_neg (mt List.isEmpty_iff.1 nothing)]
    rw [kept, trimEnd_append_right blank]

/-- A text is what trimming leaves of it, with white space around. -/
theorem exists_padding (text : Text) :
    ∃ lead trail : Text, lead.isBlank = true ∧ trail.isBlank = true ∧
      text = lead ++ text.trim ++ trail := by
  refine ⟨text.takeWhile isWhiteSpace, text.trimStart.rtakeWhile isWhiteSpace, ?_, ?_, ?_⟩
  · exact List.all_eq_true.2 fun c member => List.mem_takeWhile_imp member
  · exact List.all_eq_true.2 fun c member => List.mem_rtakeWhile_imp member
  · have back : text.trim ++ text.trimStart.rtakeWhile isWhiteSpace = text.trimStart :=
      List.rdropWhile_append_rtakeWhile
    rw [List.append_assoc, back]
    exact List.takeWhile_append_dropWhile.symm

theorem trim_trim (text : Text) : text.trim.trim = text.trim := by
  obtain ⟨lead, trail, leadBlank, trailBlank, padded⟩ := exists_padding text
  conv_rhs => rw [padded]
  rw [trim_append_right trailBlank, trim_append_left leadBlank]

theorem isInfix_trim (text : Text) : text.trim <:+: text := by
  obtain ⟨lead, trail, -, -, padded⟩ := exists_padding text
  exact ⟨lead, trail, padded.symm⟩

/-- Once the pieces are trimmed, nothing is left of the white space around the whole text. -/
theorem map_trim_pieces_trim {separator : Char} (visible : isWhiteSpace separator = false)
    (text : Text) :
    (pieces separator text.trim).map trim = (pieces separator text).map trim := by
  have clean : ∀ {blank : Text}, blank.isBlank = true → separator ∉ blank := by
    intro blank isBlank member
    rw [List.all_eq_true.1 isBlank separator member] at visible
    cases visible
  obtain ⟨lead, trail, leadBlank, trailBlank, padded⟩ := exists_padding text
  obtain ⟨before, last, plain, withTrail⟩ :=
    exists_pieces_append_right (clean trailBlank) (lead ++ text.trim)
  have trailDropped : (pieces separator text).map trim =
      (pieces separator (lead ++ text.trim)).map trim := by
    conv_lhs => rw [padded]
    rw [withTrail, plain, List.map_append, List.map_append, List.map_singleton,
      List.map_singleton, trim_append_right trailBlank]
  rw [trailDropped, pieces_append_left (clean leadBlank)]
  cases pieces separator text.trim with
  | nil => rfl
  | cons piece more =>
    rw [List.modifyHead_cons, List.map_cons, List.map_cons, trim_append_left leadBlank]

end Text

end TextQuery
