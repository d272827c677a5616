import TextQuery.Clause.Reading
import TextQuery.Proofs.Text.Splitting

/-!
The texts that are paths. A path is cut at its dots, whatever the grammar tries first, so a text is
a path exactly if it holds no `=`, comma or bar and none of its parts between dots is blank; its
steps are those parts, trimmed (`PathExpr.read_eq_ok_iff`). At the front of a longer text a path
ends before the first of these characters (`Grammar.path?_append`), and a path whose steps are
visible, trimmed and made of segment characters comes back from its text (`PathExpr.read_text`).
-/

namespace TextQuery

namespace Grammar

/-- The characters of paths: those of segments, and the dot. -/
def isPathChar (c : Char) : Bool :=
  c ≠ '=' && c ≠ ',' && c ≠ '|'

theorem isPathChar_iff {c : Char} : isPathChar c = true ↔ c ≠ '=' ∧ c ≠ ',' ∧ c ≠ '|' := by
  simp [isPathChar, and_assoc]

theorem isSegmentChar_iff {c : Char} :
    isSegmentChar c = true ↔ c ≠ '.' ∧ isPathChar c = true := by
  simp [isSegmentChar, isPathChar, and_assoc]

/-- Whether a whole text can be a path: it has path characters only, and no part of it between dots
is empty. -/
def IsPath (text : Text) : Prop :=
  [] ∉ Text.pieces '.' text ∧ ∀ c ∈ text, isPathChar c = true

/-! ## Texts that begin with a character of a segment -/

section Segment

variable {c d : Char} {rest : Text}

theorem pieces_cons_segment (segment : isSegmentChar c = true) :
    Text.pieces '.' (c :: rest) = (Text.pieces '.' rest).modifyHead (c :: ·) := by
  have noDot : '.' ∉ [c] := fun member =>
    (isSegmentChar_iff.1 segment).1 (List.mem_singleton.1 member).symm
  exact Text.pieces_append_left noDot rest

theorem nil_mem_pieces_cons_iff (segment : isSegmentChar c = true) :
    [] ∈ Text.pieces '.' (c :: rest) ↔ [] ∈ (Text.pieces '.' rest).tail := by
  rw [pieces_cons_segment segment]
  cases cut : Text.pieces '.' rest with
  | nil => exact absurd cut (Text.pieces_ne_nil _ _)
  | cons piece more => simp

theorem isPath_singleton (segment : isSegmentChar c = true) : IsPath [c] := by
  refine ⟨?_, ?_⟩
  · rw [nil_mem_pieces_cons_iff segment]
    exact List.not_mem_nil
  · exact List.forall_mem_singleton.2 (isSegmentChar_iff.1 segment).2

theorem isPath_cons_segment_iff (first : isSegmentChar c = true)
    (second : isSegmentChar d = true) : IsPath (c :: d :: rest) ↔ IsPath (d :: rest) := by
  have sameParts : [] ∈ Text.pieces '.' (c :: d :: rest) ↔ [] ∈ Text.pieces '.' (d :: rest) := by
    rw [nil_mem_pieces_cons_iff first, nil_mem_pieces_cons_iff second,
      pieces_cons_segment second, List.tail_modifyHead]
  unfold IsPath
  rw [sameParts, List.forall_mem_cons, and_iff_right (isSegmentChar_iff.1 first).2]

theorem pieces_cons_dot (segment : isSegmentChar c = true) :
    Text.pieces '.' (c :: '.' :: rest) = [c] :: Text.pieces '.' rest := by
  rw [pieces_cons_segment segment, Text.pieces, if_pos rfl]
  rfl

theorem isPath_cons_dot_iff (segment : isSegmentChar c = true) :
    IsPath (c :: '.' :: rest) ↔ IsPath rest := by
  have pathChar := (isSegmentChar_iff.1 segment).2
  have dot : isPathChar '.' = true := rfl
  unfold IsPath
  rw [pieces_cons_dot segment, List.forall_mem_cons, List.forall_mem_cons,
    and_iff_right pathChar, and_iff_right dot, List.mem_cons,
    or_iff_right (List.cons_ne_nil c []).symm]

end Segment

theorem isSegmentChar_of_isPath {c : Char} {rest : Text} (path : IsPath (c :: rest)) :
    isSegmentChar c = true := by
  obtain ⟨nonempty, chars⟩ := path
  refine isSegmentChar_iff.2 ⟨?_, chars c List.mem_cons_self⟩
  rintro rfl
  rw [Text.pieces, if_pos rfl] at nonempty
  exact nonempty List.mem_cons_self

/-- The longest path at the front of a text is the whole of it exactly if that can be a path, and
its segments are then the parts between dots. -/
theorem path?_eq_whole_iff {text : Text} {segments : List Text} :
    path? text = some (segments, []) ↔ segments = Text.pieces '.' text ∧ IsPath text := by
  fun_induction path? text generalizing segments with
  | case1 => simp [IsPath, Text.pieces]
  | case2 c segment =>
    have cut : Text.pieces '.' [c] = [[c]] := pieces_cons_segment segment
    rw [cut, and_iff_left (isPath_singleton segment), Option.some_inj, Prod.mk.injEq,
      and_iff_left rfl, eq_comm]
  | case3 c segment d more next piece pieces left taken ih =>
    rw [taken] at ih
    rw [isPath_cons_segment_iff segment next, pieces_cons_segment segment, Option.some_inj,
      Prod.mk.injEq]
    refine ⟨?_, ?_⟩
    · rintro ⟨rfl, rfl⟩
      obtain ⟨cut, path⟩ := ih.1 rfl
      rw [← cut]
      exact ⟨rfl, path⟩
    · rintro ⟨rfl, path⟩
      obtain ⟨cut, rfl⟩ := Prod.mk.inj (Option.some.inj (ih.2 ⟨rfl, path⟩))
      rw [← cut]
      exact ⟨rfl, rfl⟩
  | case4 c segment d more next untaken ih =>
    rw [isPath_cons_segment_iff segment next]
    refine iff_of_false (by simp) ?_
    rintro ⟨-, path⟩
    have whole := ih.2 ⟨rfl, path⟩
    cases cut : Text.pieces '.' (d :: more) with
    | nil => exact Text.pieces_ne_nil _ _ cut
    | cons piece pieces =>
      rw [cut] at whole
      exact untaken _ _ _ whole
  | case5 c segment more pieces left taken _ ih =>
    rw [taken] at ih
    rw [isPath_cons_dot_iff segment, pieces_cons_dot segment, Option.some_inj, Prod.mk.injEq]
    refine ⟨?_, ?_⟩
    · rintro ⟨rfl, rfl⟩
      obtain ⟨rfl, path⟩ := ih.1 rfl
      exact ⟨rfl, path⟩
    · rintro ⟨rfl, path⟩
      obtain ⟨rfl, rfl⟩ := Prod.mk.inj (Option.some.inj (ih.2 ⟨rfl, path⟩))
      exact ⟨rfl, rfl⟩
  | case6 c segment more untaken _ ih =>
    -- the path would go on behind the dot, where none was found
    rw [isPath_cons_dot_iff segment]
    refine iff_of_false (by simp) ?_
    rintro ⟨-, path⟩
    have whole := ih.2 ⟨rfl, path⟩
    rw [untaken] at whole
    cases whole
  | case7 c segment d more stop noDot =>
    refine iff_of_false (by simp) ?_
    rintro ⟨-, -, chars⟩
    have pathChar := chars d (List.mem_cons_of_mem _ List.mem_cons_self)
    exact stop (isSegmentChar_iff.2 ⟨noDot, pathChar⟩)
  | case8 c rest stop =>
    refine iff_of_false (by simp) ?_
    rintro ⟨-, path⟩
    exact stop (isSegmentChar_of_isPath path)

theorem tokens?_pathOnly_eq_some_iff {text : Text} {tokens : List Token} :
    Rule.pathOnly.tokens? text = some tokens ↔
      ∃ segments, path? text = some (segments, []) ∧ tokens = pathTokens segments ++ [.finish] := by
  unfold Rule.tokens?
  dsimp only
  split
  · rename_i segments taken
    rw [taken]
    simp [eq_comm]
  · rename_i other
    refine iff_of_false (by simp) ?_
    rintro ⟨segments, taken, -⟩
    exact other segments taken

/-! ## Paths at the front of a text -/

theorem isSegmentChar_of_isPathChar {c : Char} (ends : isPathChar c = false) :
    isSegmentChar c = false ∧ c ≠ '.' := by
  refine ⟨?_, ?_⟩
  · rw [← Bool.not_eq_true, isSegmentChar_iff, ends]
    exact fun both => Bool.false_ne_true both.2
  · rintro rfl
    exact absurd ends (by decide)

/-- A path that is a whole text is still the longest one if a character that ends paths follows. -/
theorem path?_append {text rest : Text} {segments : List Text}
    (whole : path? text = some (segments, [])) (stop : ∀ c ∈ rest.head?, isPathChar c = false) :
    path? (text ++ rest) = some (segments, rest) := by
  fun_induction path? text generalizing segments with
  | case1 => cases whole
  | case2 c segment =>
    cases whole
    cases rest with
    | nil => rw [List.append_nil, path?, if_pos segment]
    | cons d more =>
      obtain ⟨noSegment, noDot⟩ := isSegmentChar_of_isPathChar (stop d rfl)
      rw [List.singleton_append, path?, if_pos segment]
      simp only [noSegment, noDot, if_false, Bool.false_eq_true]
  | case3 c segment d more next piece pieces left taken ih =>
    cases whole
    have later : path? (d :: (more ++ rest)) = some (piece :: pieces, rest) := ih taken
    rw [List.cons_append, List.cons_append, path?, if_pos segment]
    simp only [if_pos next, later]
  | case4 c segment d more next untaken ih => cases whole
  | case5 c segment more pieces left taken noSegment ih =>
    cases whole
    rw [List.cons_append, List.cons_append, path?, if_pos segment]
    simp only [if_neg noSegment, if_true, ih taken]
  | case6 c segment more untaken _ ih => cases whole
  | case7 c segment d more stop noDot => cases whole
  | case8 c rest stop => cases whole

/-- What the grammar takes as a path is there: its segments, with dots between them, stand at the
front of the text. -/
theorem eq_join_of_path? {text rest : Text} {segments : List Text}
    (taken : path? text = some (segments, rest)) :
    text = Text.join ['.'] segments ++ rest ∧ segments ≠ [] ∧
      ∀ segment ∈ segments, ∀ c ∈ segment, isSegmentChar c = true := by
  have single : ∀ {c : Char} (rest : Text), isSegmentChar c = true →
      c :: rest = Text.join ['.'] [[c]] ++ rest ∧ [[c]] ≠ [] ∧
        ∀ segment ∈ [[c]], ∀ d ∈ segment, isSegmentChar d = true := by
    intro c rest segment
    refine ⟨by rw [Text.join_singleton]; rfl, List.cons_ne_nil _ _, ?_⟩
    exact List.forall_mem_singleton.2 (List.forall_mem_singleton.2 segment)
  fun_induction path? text generalizing segments rest with
  | case1 => cases taken
  | case2 c segment =>
    cases taken
    exact single [] segment
  | case3 c segment d more next piece pieces left further ih =>
    cases taken
    obtain ⟨same, -, chars⟩ := ih further
    obtain ⟨first, others⟩ := List.forall_mem_cons.1 chars
    refine ⟨?_, List.cons_ne_nil _ _, ?_⟩
    · rw [same]
      cases pieces <;> rfl
    · exact List.forall_mem_cons.2 ⟨List.forall_mem_cons.2 ⟨segment, first⟩, others⟩
  | case4 c segment d more next untaken ih =>
    cases taken
    exact single _ segment
  | case5 c segment more pieces left further _ ih =>
    cases taken
    obtain ⟨same, nonempty, chars⟩ := ih further
    refine ⟨?_, List.cons_ne_nil _ _, ?_⟩
    · rw [same]
      cases pieces with
      | nil => exact absurd rfl nonempty
      | cons piece pieces => rfl
    · exact List.forall_mem_cons.2 ⟨List.forall_mem_singleton.2 segment, chars⟩
  | case6 c segment more untaken _ ih =>
    cases taken
    exact single _ segment
  | case7 c segment d more stop noDot =>
    cases taken
    exact single _ segment
  | case8 c rest stop => cases taken

/-- A text can stand as a step of a path: it is visible, trimmed and made of segment characters. -/
def IsStep (step : Text) : Prop :=
  step ≠ [] ∧ step.trim = step ∧ ∀ c ∈ step, isSegmentChar c = true

instance : DecidablePred IsStep := fun step =>
  decidable_of_iff (step ≠ [] ∧ step.trim = step ∧ step.all isSegmentChar = true)
    (by simp [IsStep])

end Grammar

namespace PathExpr

theorem textsOf_segment {rest : List Token} (others : ∀ token ∈ rest, token.rule ≠ .segment)
    (segments : List Text) :
    Token.textsOf .segment (Grammar.pathTokens segments ++ rest) = segments := by
  have kept : ∀ token ∈ segments.map (Token.mk .segment),
      decide (token.rule = Rule.segment) = true := by
    intro token member
    obtain ⟨piece, -, rfl⟩ := List.mem_map.1 member
    rfl
  have dropped : rest.filter (·.rule = .segment) = [] :=
    List.filter_eq_nil_iff.2 fun token member => by simpa using others token member
  unfold Token.textsOf Grammar.pathTokens
  rw [List.filter_append, List.filter_cons_of_neg (by simp), List.filter_eq_self.2 kept, dropped]
  simp [Function.comp_def]

theorem ofSegments?_eq_some_iff {segments : List Text} {path : PathExpr} :
    ofSegments? segments = some path ↔
      [] ∉ segments.map Text.trim ∧ path.steps = segments.map Text.trim := by
  have visible : segments.all (!·.isBlank) = true ↔ [] ∉ segments.map Text.trim := by
    rw [List.all_eq_true, List.mem_map]
    simp [← Text.isBlank_iff_trim_eq_nil]
  unfold ofSegments?
  split
  · rename_i all
    rw [Option.some_inj, ← visible]
    refine ⟨?_, ?_⟩
    · rintro rfl
      exact ⟨all, rfl⟩
    · rintro ⟨-, steps⟩
      cases path
      exact congrArg PathExpr.mk steps.symm
  · rename_i some
    exact iff_of_false nofun fun ⟨nonempty, _⟩ => some (visible.2 nonempty)

theorem forall_isPathChar_trim {text : Text} :
    (∀ c ∈ text.trim, Grammar.isPathChar c = true) ↔ ∀ c ∈ text, Grammar.isPathChar c = true := by
  have white : ∀ {blank : Text}, blank.isBlank = true → ∀ c ∈ blank,
      Grammar.isPathChar c = true := by
    intro blank isBlank c member
    have space := List.all_eq_true.1 isBlank c member
    refine Grammar.isPathChar_iff.2 ⟨?_, ?_, ?_⟩ <;>
    · rintro rfl
      exact absurd space (by decide)
  obtain ⟨lead, trail, leadBlank, trailBlank, padded⟩ := Text.exists_padding text
  conv_rhs => rw [padded]
  rw [List.forall_mem_append, List.forall_mem_append]
  exact ⟨fun chars => ⟨⟨white leadBlank, chars⟩, white trailBlank⟩, fun chars => chars.1.2⟩

theorem read_eq_ok_iff_exists {text : Text} {path : PathExpr} :
    read text = .ok path ↔
      ∃ segments, Grammar.path? text.trim = some (segments, []) ∧
        ofSegments? segments = some path := by
  unfold read
  refine ⟨?_, ?_⟩
  · intro given
    split at given
    · rename_i tokens found
      obtain ⟨segments, taken, rfl⟩ := Grammar.tokens?_pathOnly_eq_some_iff.1 found
      rw [textsOf_segment (by simp [Token.finish])] at given
      split at given
      · rename_i built
        cases given
        exact ⟨segments, taken, built⟩
      · cases given
    · cases given
  · rintro ⟨segments, taken, built⟩
    have found := Grammar.tokens?_pathOnly_eq_some_iff.2 ⟨segments, taken, rfl⟩
    have ends : ∀ token ∈ [Token.finish], token.rule ≠ .segment := by simp [Token.finish]
    have cut := textsOf_segment ends segments
    simp only [found, cut, built]

/-- A text is a path exactly if it holds no character that ends one, and none of its parts between
dots is blank. -/
theorem read_eq_ok_iff {text : Text} {path : PathExpr} :
    read text = .ok path ↔
      (∀ c ∈ text, Grammar.isPathChar c = true) ∧
      [] ∉ (Text.pieces '.' text).map Text.trim ∧
      path.steps = (Text.pieces '.' text).map Text.trim := by
  rw [← Text.map_trim_pieces_trim (by decide) text, ← forall_isPathChar_trim,
    read_eq_ok_iff_exists]
  simp only [Grammar.path?_eq_whole_iff, ofSegments?_eq_some_iff]
  refine ⟨?_, ?_⟩
  · rintro ⟨segments, ⟨rfl, -, chars⟩, visible, steps⟩
    exact ⟨chars, visible, steps⟩
  · rintro ⟨chars, visible, steps⟩
    have nonempty : [] ∉ Text.pieces '.' text.trim := fun empty =>
      visible (List.mem_map.2 ⟨[], empty, rfl⟩)
    exact ⟨_, ⟨rfl, nonempty, chars⟩, visible, steps⟩

/-! ## Paths that can be written -/

section Written

variable {path : PathExpr} (steps : ∀ step ∈ path.steps, Grammar.IsStep step)

include steps

theorem map_trim_steps : path.steps.map Text.trim = path.steps := by
  conv_rhs => rw [← List.map_id path.steps]
  exact List.map_congr_left fun step isStep => (steps step isStep).2.1

variable (nonempty : path.steps ≠ [])

include nonempty

theorem pieces_text : Text.pieces '.' path.text = path.steps := by
  refine Text.pieces_join nonempty fun step isStep member => ?_
  exact absurd ((steps step isStep).2.2 '.' member) (by decide)

theorem isBlank_text : path.text.isBlank = false := by
  obtain ⟨step, isStep⟩ := List.exists_mem_of_ne_nil path.steps nonempty
  obtain ⟨visible, trimmed, -⟩ := steps step isStep
  have shown : step.isBlank = false := by
    rw [← Bool.not_eq_true, Text.isBlank_iff_trim_eq_nil, trimmed]
    exact visible
  obtain ⟨c, within, notWhite⟩ := List.all_eq_false.1 shown
  exact List.all_eq_false.2 ⟨c, Text.mem_join_of_mem isStep within, notWhite⟩

theorem isPath_text : Grammar.IsPath path.text := by
  refine ⟨?_, ?_⟩
  · rw [pieces_text steps nonempty]
    exact fun empty => (steps [] empty).1 rfl
  · intro c member
    rcases Text.mem_of_mem_join member with rfl | ⟨step, isStep, within⟩
    · rfl
    · exact (Grammar.isSegmentChar_iff.1 ((steps step isStep).2.2 c within)).2

/-- A path of such steps comes back from its text. -/
theorem read_text : read path.text = .ok path := by
  refine read_eq_ok_iff.2 ⟨(isPath_text steps nonempty).2, ?_, ?_⟩
  · rw [pieces_text steps nonempty, map_trim_steps steps]
    exact fun empty => (steps [] empty).1 rfl
  · rw [pieces_text steps nonempty, map_trim_steps steps]

end Written

end PathExpr

end TextQuery
