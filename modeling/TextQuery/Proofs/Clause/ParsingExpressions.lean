import TextQuery.Proofs.Clause.Paths

/-!
The grammar of query texts as a parsing expression grammar. `Rule.body` writes every rule down as a
parsing expression, and `Grammar.Matches` says what an expression does at the front of a text:
choices are ordered, repetitions are greedy and never taken back, and white space counts like any
other character. An expression does one thing only (`Grammar.Matches.unique`). Main statement: the
tokens that reading works with are those that the expressions take (`Rule.derives_iff`).
-/

namespace TextQuery

namespace Grammar

/-- A parsing expression. -/
inductive Peg where
  | empty
  /-- The start of the whole text. -/
  | start
  /-- The end of the text. -/
  | finish
  /-- Any one character. -/
  | any
  | char (c : Char)
  | rule (rule : Rule)
  | seq (first second : Peg)
  /-- The second expression counts only where the first does not match. -/
  | choice (first second : Peg)
  /-- As often as the expression matches. -/
  | star (body : Peg)
  /-- Nothing, where the expression does not match. -/
  | absent (body : Peg)
deriving Repr

namespace Peg

/-- One of some characters, of which the first is `first`. -/
def oneOf (first : Char) : List Char → Peg
  | [] => .char first
  | next :: more => .choice (.char first) (oneOf next more)

/-- Any character where the expression does not match. -/
def anyBut (excluded : Peg) : Peg :=
  .seq (.absent excluded) .any

/-- At least once, and as often as the expression matches. -/
def plus (body : Peg) : Peg :=
  .seq body (.star body)

/-- Possibly once. -/
def opt (body : Peg) : Peg :=
  .choice body .empty

/-- A whole text of runs of one rule, with a character between each two. -/
def separated (piece : Rule) (separator : Char) : Peg :=
  .seq .start (.seq (.rule piece)
    (.seq (.star (.seq (.char separator) (.rule piece))) (.rule .finish)))

end Peg

end Grammar

open Grammar

/-- The parsing expression of a rule. -/
def Rule.body : Rule → Peg
  | filter => .separated clause ','
  | clause => .star (.anyBut (.oneOf ',' []))
  | alternatives => .separated alternative '|'
  | alternative => .star (.anyBut (.oneOf '|' []))
  | order => .seq .start (.seq (.rule path)
      (.seq (.opt (.seq (.char '=') (.rule direction))) (.rule finish)))
  | direction => .star .any
  | select => .separated fieldName ','
  | fieldName => .star (.anyBut (.oneOf ',' []))
  | pathOnly => .seq .start (.seq (.rule path) (.rule finish))
  | path => .seq (.rule segment) (.star (.seq (.char '.') (.rule segment)))
  | segment => .plus (.anyBut (.oneOf '.' ['=', ',', '|']))
  | finish => .finish

/-- The tokens of a rule that took a run of characters: none of its own for the rules of whole
texts, its own and those inside it for a path, and its own alone for all other rules. -/
def Rule.emit (rule : Rule) (taken : Text) (inner : List Token) : List Token :=
  match rule with
  | filter | alternatives | order | select | pathOnly => inner
  | path => ⟨.path, taken⟩ :: inner
  | rule => [⟨rule, taken⟩]

namespace Grammar

/-- What a parsing expression does at the front of a text: it does not match, or it takes a run of
characters, with tokens for the rules in it, and leaves the rest of the text. -/
inductive Matches (whole : Text) : Peg → Text → Option (List Token × Text) → Prop
  | empty {text} : Matches whole .empty text (some ([], text))
  | start : Matches whole .start whole (some ([], whole))
  | notStart {text} : text ≠ whole → Matches whole .start text none
  | finish : Matches whole .finish [] (some ([], []))
  | notFinish {c rest} : Matches whole .finish (c :: rest) none
  | any {c rest} : Matches whole .any (c :: rest) (some ([], rest))
  | notAny : Matches whole .any [] none
  | char {c rest} : Matches whole (.char c) (c :: rest) (some ([], rest))
  | notChar {c text} : text.head? ≠ some c → Matches whole (.char c) text none
  | rule {rule text taken rest inner} : Matches whole rule.body text (some (inner, rest)) →
    text = taken ++ rest → Matches whole (.rule rule) text (some (rule.emit taken inner, rest))
  | notRule {rule text} : Matches whole rule.body text none → Matches whole (.rule rule) text none
  | seq {first second text rest tokens rest' tokens'} :
    Matches whole first text (some (tokens, rest)) →
    Matches whole second rest (some (tokens', rest')) →
    Matches whole (.seq first second) text (some (tokens ++ tokens', rest'))
  | notFirst {first second text} : Matches whole first text none →
    Matches whole (.seq first second) text none
  | notSecond {first second text rest tokens} :
    Matches whole first text (some (tokens, rest)) → Matches whole second rest none →
    Matches whole (.seq first second) text none
  | left {first second text taken} : Matches whole first text (some taken) →
    Matches whole (.choice first second) text (some taken)
  | right {first second text outcome} : Matches whole first text none →
    Matches whole second text outcome → Matches whole (.choice first second) text outcome
  | more {body text rest tokens rest' tokens'} : Matches whole body text (some (tokens, rest)) →
    Matches whole (.star body) rest (some (tokens', rest')) →
    Matches whole (.star body) text (some (tokens ++ tokens', rest'))
  | noMore {body text} : Matches whole body text none →
    Matches whole (.star body) text (some ([], text))
  | absent {body text} : Matches whole body text none →
    Matches whole (.absent body) text (some ([], text))
  | notAbsent {body text taken} : Matches whole body text (some taken) →
    Matches whole (.absent body) text none

namespace Matches

variable {whole text : Text} {outcome outcome' : Option (List Token × Text)}

/-- An expression does one thing at the front of a text. -/
theorem unique {expression : Peg} (first : Matches whole expression text outcome)
    (second : Matches whole expression text outcome') : outcome = outcome' := by
  induction first generalizing outcome' with
  | empty => cases second; rfl
  | start =>
    cases second with
    | start => rfl
    | notStart different => exact absurd rfl different
  | notStart different =>
    cases second with
    | start => exact absurd rfl different
    | notStart _ => rfl
  | finish => cases second; rfl
  | notFinish => cases second; rfl
  | any => cases second; rfl
  | notAny => cases second; rfl
  | char =>
    cases second with
    | char => rfl
    | notChar different => exact absurd rfl different
  | notChar different =>
    cases second with
    | char => exact absurd rfl different
    | notChar _ => rfl
  | rule _ split ih =>
    cases second with
    | rule body split' =>
      cases ih body
      rw [List.append_cancel_right (split.symm.trans split')]
    | notRule body => cases ih body
  | notRule _ ih =>
    cases second with
    | rule body _ => cases ih body
    | notRule _ => rfl
  | seq _ _ ih ih' =>
    cases second with
    | seq first second =>
      cases ih first
      cases ih' second
      rfl
    | notFirst first => cases ih first
    | notSecond first second =>
      cases ih first
      cases ih' second
  | notFirst _ ih =>
    cases second with
    | seq first _ => cases ih first
    | notFirst _ => rfl
    | notSecond first _ => cases ih first
  | notSecond _ _ ih ih' =>
    cases second with
    | seq first second =>
      cases ih first
      cases ih' second
    | notFirst _ => rfl
    | notSecond _ _ => rfl
  | left _ ih =>
    cases second with
    | left first => exact ih first
    | right first _ => cases ih first
  | right _ _ ih ih' =>
    cases second with
    | left first => cases ih first
    | right _ second => exact ih' second
  | more _ _ ih ih' =>
    cases second with
    | more once again =>
      cases ih once
      cases ih' again
      rfl
    | noMore never => cases ih never
  | noMore _ ih =>
    cases second with
    | more once _ => cases ih once
    | noMore _ => rfl
  | absent _ ih =>
    cases second with
    | absent _ => rfl
    | notAbsent body => cases ih body
  | notAbsent _ ih =>
    cases second with
    | absent body => cases ih body
    | notAbsent _ => rfl

end Matches

/-! ## Runs of characters -/

section Runs

variable {whole : Text} {first : Char} {more : List Char}

theorem exists_matches_oneOf {c : Char} (member : c ∈ first :: more) (rest : Text) :
    ∃ taken, Matches whole (.oneOf first more) (c :: rest) (some taken) := by
  induction more generalizing first with
  | nil =>
    rw [List.mem_singleton.1 member]
    exact ⟨_, .char⟩
  | cons next more ih =>
    by_cases same : c = first
    · rw [same]
      exact ⟨_, .left .char⟩
    · obtain ⟨taken, matched⟩ := ih ((List.mem_cons.1 member).resolve_left same)
      exact ⟨taken, .right (.notChar fun head => same (Option.some.inj head)) matched⟩

theorem not_matches_oneOf {text : Text} (apart : ∀ c ∈ text.head?, c ∉ first :: more) :
    Matches whole (.oneOf first more) text none := by
  have notFirst : text.head? ≠ some first := fun head => apart first head List.mem_cons_self
  induction more generalizing first with
  | nil => exact .notChar notFirst
  | cons next more ih =>
    have apart' : ∀ c ∈ text.head?, c ∉ next :: more := fun c head member =>
      apart c head (List.mem_cons_of_mem _ member)
    exact .right (.notChar notFirst)
      (ih apart' fun head => apart' next head List.mem_cons_self)

theorem matches_anyBut {c : Char} (other : c ∉ first :: more) (rest : Text) :
    Matches whole (.anyBut (.oneOf first more)) (c :: rest) (some ([], rest)) := by
  have apart : ∀ d ∈ (c :: rest).head?, d ∉ first :: more := by
    rintro d ⟨⟩
    exact other
  exact .seq (.absent (not_matches_oneOf apart)) .any

theorem not_matches_anyBut {text : Text} (stop : ∀ c ∈ text.head?, c ∈ first :: more) :
    Matches whole (.anyBut (.oneOf first more)) text none := by
  cases text with
  | nil => exact .notSecond (.absent (not_matches_oneOf (by simp))) .notAny
  | cons c rest =>
    obtain ⟨taken, matched⟩ := exists_matches_oneOf (stop c rfl) rest
    exact .notFirst (.notAbsent matched)

/-- A repetition of single characters takes all of them up to the first excluded one. -/
theorem matches_star_anyBut (text : Text) :
    Matches whole (.star (.anyBut (.oneOf first more))) text
      (some ([], text.dropWhile (· ∉ first :: more))) := by
  induction text with
  | nil => exact .noMore (not_matches_anyBut (by simp))
  | cons c rest ih =>
    by_cases excluded : c ∈ first :: more
    · rw [List.dropWhile_cons, if_neg (by rw [decide_eq_true_iff]; exact not_not_intro excluded)]
      refine .noMore (not_matches_anyBut ?_)
      rintro d ⟨⟩
      exact excluded
    · rw [List.dropWhile_cons, if_pos (decide_eq_true excluded)]
      exact .more (matches_anyBut excluded rest) ih

theorem matches_star_any (text : Text) : Matches whole (.star .any) text (some ([], [])) := by
  induction text with
  | nil => exact .noMore .notAny
  | cons c rest ih => exact .more .any ih

end Runs

theorem matches_finish {whole : Text} : Matches whole (.rule .finish) [] (some ([.finish], [])) :=
  .rule .finish (List.append_nil []).symm

/-! ## Texts of pieces -/

section Pieces

variable {whole : Text} {piece : Rule} {separator : Char}

variable (run : ∀ text : Text, Matches whole (.rule piece) text
  (some ([⟨piece, text.takeWhile (· ≠ separator)⟩], text.dropWhile (· ≠ separator))))

include run

/-- Behind the first piece there is a piece for each separator, up to the end of the text. -/
theorem matches_star_pieces (text : Text) :
    Matches whole (.star (.seq (.char separator) (.rule piece)))
      (text.dropWhile (· ≠ separator))
      (some ((Text.pieces separator text).tail.map (⟨piece, ·⟩), [])) := by
  induction length : text.length using Nat.strong_induction_on generalizing text with
  | _ n ih =>
    cases left : text.dropWhile (· ≠ separator) with
    | nil =>
      rw [Text.tail_pieces_of_dropWhile_nil left]
      exact .noMore (.notFirst (.notChar nofun))
    | cons c more =>
      obtain ⟨rfl, others⟩ := Text.tail_pieces_of_dropWhile left
      have shorter : more.length < n := by
        have := (List.dropWhile_sublist (l := text) (· ≠ c)).length_le
        rw [left, List.length_cons] at this
        omega
      rw [others, Text.pieces_eq_cons more]
      exact .more (.seq .char (run more)) (ih _ shorter more rfl)

theorem matches_separated :
    Matches whole (.separated piece separator) whole
      (some (pieceTokens piece separator whole, [])) := by
  have tokens : pieceTokens piece separator whole =
      [] ++ ([⟨piece, whole.takeWhile (· ≠ separator)⟩] ++
        ((Text.pieces separator whole).tail.map (⟨piece, ·⟩) ++ [.finish])) := by
    unfold pieceTokens
    rw [Text.pieces_eq_cons whole]
    rfl
  rw [tokens]
  exact .seq .start (.seq (run whole) (.seq (matches_star_pieces run whole) matches_finish))

end Pieces

/-! ## Paths -/

/-- The longest path behind a dot. -/
def behindDot? : Text → Option (List Text × Text)
  | '.' :: more => path? more
  | _ => none

theorem behindDot?_of_ne {c : Char} (other : c ≠ '.') (more : Text) :
    behindDot? (c :: more) = none := by
  unfold behindDot?
  split
  · rename_i same
    cases same
    exact absurd rfl other
  · rfl

/-- The longest path, one segment at a time: a dot counts only if a path follows. -/
theorem path?_append_of_run {run rest : Text} (nonempty : run ≠ [])
    (segment : ∀ c ∈ run, isSegmentChar c = true)
    (stop : ∀ c ∈ rest.head?, isSegmentChar c = false) :
    path? (run ++ rest) =
      some (match behindDot? rest with
        | some (segments, rest') => (run :: segments, rest')
        | none => ([run], rest)) := by
  induction run with
  | nil => exact absurd rfl nonempty
  | cons c run ih =>
    obtain ⟨first, others⟩ := List.forall_mem_cons.1 segment
    cases run with
    | nil =>
      cases rest with
      | nil => rw [List.append_nil, path?, if_pos first]; rfl
      | cons d more =>
        rw [List.singleton_append, path?, if_pos first]
        have noSegment : ¬ isSegmentChar d = true := by simp [stop d rfl]
        by_cases dot : d = '.'
        · subst dot
          simp only [if_neg noSegment, if_true, behindDot?]
          cases path? more <;> rfl
        · simp only [if_neg noSegment, if_neg dot, behindDot?_of_ne dot]
    | cons d run =>
      have second := others d List.mem_cons_self
      have later := ih (List.cons_ne_nil _ _) others
      rw [List.cons_append] at later
      rw [List.cons_append, List.cons_append, path?, if_pos first]
      simp only [if_pos second, later]
      cases behindDot? rest <;> rfl

theorem stop_of_dropWhile (text : Text) :
    ∀ c ∈ (text.dropWhile isSegmentChar).head?, isSegmentChar c = false := by
  intro c head
  have ends := List.head?_dropWhile_not isSegmentChar text
  rw [Option.mem_def.1 head] at ends
  simpa using ends

theorem path?_eq_none_of_stop {text : Text} (stop : ∀ c ∈ text.head?, isSegmentChar c = false) :
    path? text = none := by
  cases text with
  | nil => rfl
  | cons c rest =>
    have noSegment : isSegmentChar c = false := stop c rfl
    rw [path?.eq_def]
    simp [noSegment]

/-- The first segment of a path is the longest run of segment characters. -/
theorem path?_eq (text : Text) :
    path? text =
      if text.takeWhile isSegmentChar = [] then none
      else some (match behindDot? (text.dropWhile isSegmentChar) with
        | some (segments, rest) => (text.takeWhile isSegmentChar :: segments, rest)
        | none => ([text.takeWhile isSegmentChar], text.dropWhile isSegmentChar)) := by
  have split : text.takeWhile isSegmentChar ++ text.dropWhile isSegmentChar = text :=
    List.takeWhile_append_dropWhile
  have stop := stop_of_dropWhile text
  split_ifs with nothing
  · rw [nothing, List.nil_append] at split
    rw [split] at stop
    exact path?_eq_none_of_stop stop
  · have run : ∀ c ∈ text.takeWhile isSegmentChar, isSegmentChar c = true :=
      fun c member => List.mem_takeWhile_imp member
    have longest := path?_append_of_run nothing run stop
    rwa [split] at longest

section Segments

variable {whole : Text}

theorem isSegmentChar_eq (c : Char) : isSegmentChar c = decide (c ∉ ['.', '=', ',', '|']) := by
  simp [isSegmentChar, Bool.and_assoc]

theorem matches_segment {run rest : Text} (nonempty : run ≠ [])
    (segment : ∀ c ∈ run, isSegmentChar c = true)
    (stop : ∀ c ∈ rest.head?, isSegmentChar c = false) :
    Matches whole (.rule .segment) (run ++ rest) (some ([⟨.segment, run⟩], rest)) := by
  obtain ⟨c, run, rfl⟩ := List.exists_cons_of_ne_nil nonempty
  obtain ⟨first, others⟩ := List.forall_mem_cons.1 segment
  rw [isSegmentChar_eq, decide_eq_true_iff] at first
  have ends : rest.dropWhile (· ∉ ['.', '=', ',', '|']) = rest := by
    cases rest with
    | nil => rfl
    | cons d more => rw [List.dropWhile_cons, ← isSegmentChar_eq, stop d rfl, if_neg nofun]
  have taken : (run ++ rest).dropWhile (· ∉ ['.', '=', ',', '|']) = rest := by
    rw [List.dropWhile_append_of_pos fun d member => by rw [← isSegmentChar_eq, others d member],
      ends]
  have repeated : Matches whole (.star (.anyBut (.oneOf '.' ['=', ',', '|']))) (run ++ rest) _ :=
    matches_star_anyBut (run ++ rest)
  rw [taken] at repeated
  exact .rule (.seq (matches_anyBut first _) repeated) rfl

theorem not_matches_segment {text : Text} (stop : ∀ c ∈ text.head?, isSegmentChar c = false) :
    Matches whole (.rule .segment) text none := by
  refine .notRule (.notFirst (not_matches_anyBut fun c head => ?_))
  have ends := stop c head
  rw [isSegmentChar_eq, decide_eq_false_iff_not] at ends
  exact Decidable.not_not.1 ends

/-- The longest run of segment characters is a segment, unless it is empty. -/
theorem matches_longest_segment (text : Text) :
    Matches whole (.rule .segment) text
      (if text.takeWhile isSegmentChar = [] then none
        else some ([⟨.segment, text.takeWhile isSegmentChar⟩], text.dropWhile isSegmentChar)) := by
  have split : text.takeWhile isSegmentChar ++ text.dropWhile isSegmentChar = text :=
    List.takeWhile_append_dropWhile
  have stop := stop_of_dropWhile text
  split_ifs with nothing
  · rw [nothing, List.nil_append] at split
    rw [split] at stop
    exact not_matches_segment stop
  · have run : ∀ c ∈ text.takeWhile isSegmentChar, isSegmentChar c = true :=
      fun c member => List.mem_takeWhile_imp member
    have taken : Matches whole (.rule .segment) _ _ := matches_segment nothing run stop
    rwa [split] at taken

/-- The segments of a path behind a dot. -/
def dottedSegments : Peg :=
  .star (.seq (.char '.') (.rule .segment))

theorem matches_dottedSegments_of_path {more : Text} {taken : List Token × Text}
    (path : Matches whole Rule.path.body more (some taken)) :
    Matches whole dottedSegments ('.' :: more) (some taken) := by
  change Matches whole (.seq (.rule .segment) dottedSegments) more (some taken) at path
  cases path with
  | seq first others => exact .more (.seq .char first) others

/-- A dot that no path follows is left. -/
theorem matches_dottedSegments_of_no_path {more : Text}
    (noPath : Matches whole Rule.path.body more none) :
    Matches whole dottedSegments ('.' :: more) (some ([], '.' :: more)) := by
  change Matches whole (.seq (.rule .segment) dottedSegments) more none at noPath
  cases noPath with
  | notFirst noSegment => exact .noMore (.notSecond .char noSegment)
  | notSecond _ noRepetition => cases noRepetition

/-- Segments are taken as long as a dot and another one follow. -/
theorem matches_path_body (text : Text) :
    Matches whole Rule.path.body text
      ((path? text).map fun (segments, rest) => (segments.map (⟨.segment, ·⟩), rest)) := by
  induction length : text.length using Nat.strong_induction_on generalizing text with
  | _ n ih =>
    have first : Matches whole (.rule .segment) text _ := matches_longest_segment text
    have longest := path?_eq text
    by_cases nothing : text.takeWhile isSegmentChar = []
    · rw [if_pos nothing] at first longest
      rw [longest]
      exact .notFirst first
    · rw [if_neg nothing] at first longest
      rw [longest]
      cases rest : text.dropWhile isSegmentChar with
      | nil =>
        rw [rest] at first
        exact .seq first (.noMore (.notFirst (.notChar nofun)))
      | cons c more =>
        rw [rest] at first
        by_cases dot : c = '.'
        · subst dot
          have shorter : more.length < n := by
            have := (List.dropWhile_sublist (l := text) isSegmentChar).length_le
            rw [rest, List.length_cons] at this
            omega
          have inner := ih _ shorter more rfl
          have behind : behindDot? ('.' :: more) = path? more := rfl
          rw [behind]
          cases found : path? more with
          | none =>
            rw [found] at inner
            exact .seq first (matches_dottedSegments_of_no_path inner)
          | some taken =>
            rw [found] at inner
            exact .seq first (matches_dottedSegments_of_path inner)
        · rw [behindDot?_of_ne dot]
          exact .seq first (.noMore (.notFirst (.notChar fun head => dot (Option.some.inj head))))

theorem matches_path (text : Text) :
    Matches whole (.rule .path) text
      ((path? text).map fun (segments, rest) => (pathTokens segments, rest)) := by
  have body : Matches whole Rule.path.body text _ := matches_path_body text
  cases found : path? text with
  | none =>
    rw [found] at body
    exact .notRule body
  | some taken =>
    rw [found] at body
    exact .rule body (eq_join_of_path? found).1

end Segments

/-! ## Rules -/

section Rules

variable {whole : Text}

/-- A rule of runs takes the text up to the first separator. -/
theorem matches_run {rule : Rule} {separator : Char}
    (body : rule.body = .star (.anyBut (.oneOf separator [])))
    (emit : ∀ taken inner, rule.emit taken inner = [⟨rule, taken⟩]) (text : Text) :
    Matches whole (.rule rule) text
      (some ([⟨rule, text.takeWhile (· ≠ separator)⟩], text.dropWhile (· ≠ separator))) := by
  have run : Matches whole (.star (.anyBut (.oneOf separator []))) text _ :=
    matches_star_anyBut text
  simp only [List.mem_singleton] at run
  rw [← body] at run
  rw [← emit _ []]
  exact .rule run List.takeWhile_append_dropWhile.symm

theorem matches_direction (text : Text) :
    Matches whole (.rule .direction) text (some ([⟨.direction, text⟩], [])) :=
  .rule (matches_star_any text) (List.append_nil text).symm

theorem not_matches_finish {c : Char} {rest : Text} :
    Matches whole (.rule .finish) (c :: rest) none :=
  .notRule .notFinish

end Rules

end Grammar

namespace Rule

/-- What a rule finds in a text: its tokens, or nothing where it does not match. -/
def Derives (rule : Rule) (text : Text) (found : Option (List Token)) : Prop :=
  ∃ outcome, Matches text (.rule rule) text outcome ∧ outcome.map Prod.fst = found

theorem derives_pathOnly (text : Text) : pathOnly.Derives text (pathOnly.tokens? text) := by
  have front : Matches text (.rule .path) text _ := matches_path text
  unfold tokens?
  dsimp only
  split
  · rename_i segments taken
    rw [taken] at front
    exact ⟨_, .rule (.seq .start (.seq front matches_finish)) (List.append_nil text).symm, rfl⟩
  · rename_i other
    refine ⟨none, .notRule (.notSecond .start ?_), rfl⟩
    cases taken : path? text with
    | none =>
      rw [taken] at front
      exact .notFirst front
    | some found =>
      obtain ⟨segments, rest⟩ := found
      rw [taken] at front
      cases rest with
      | nil => exact absurd taken (other segments)
      | cons c more => exact .notSecond front not_matches_finish

/-- After the path of an ordering the direction is tried first; without it the text has to end. -/
theorem derives_order (text : Text) : order.Derives text (order.tokens? text) := by
  have front : Matches text (.rule .path) text _ := matches_path text
  unfold tokens?
  dsimp only
  split
  · rename_i segments taken
    rw [taken] at front
    have undirected : Matches text (.opt (.seq (.char '=') (.rule direction))) [] _ :=
      .right (.notFirst (.notChar nofun)) .empty
    exact ⟨_, .rule (.seq .start (.seq front (.seq undirected matches_finish)))
      (List.append_nil text).symm, rfl⟩
  · rename_i segments given taken
    rw [taken] at front
    have directed : Matches text (.opt (.seq (.char '=') (.rule direction))) ('=' :: given) _ :=
      .left (.seq .char (matches_direction given))
    exact ⟨_, .rule (.seq .start (.seq front (.seq directed matches_finish)))
      (List.append_nil text).symm, rfl⟩
  · rename_i notWhole notDirected
    refine ⟨none, .notRule (.notSecond .start ?_), rfl⟩
    cases taken : path? text with
    | none =>
      rw [taken] at front
      exact .notFirst front
    | some found =>
      obtain ⟨segments, rest⟩ := found
      rw [taken] at front
      refine .notSecond front ?_
      cases rest with
      | nil => exact absurd taken (notWhole segments)
      | cons c more =>
        have undirected : (c :: more).head? ≠ some '=' := by
          rintro ⟨⟩
          exact notDirected segments more taken
        exact .notSecond (.right (.notFirst (.notChar undirected)) .empty) not_matches_finish

theorem derives_tokens? (rule : Rule) (text : Text) : rule.Derives text (rule.tokens? text) := by
  have whole : text = text ++ [] := (List.append_nil text).symm
  cases rule with
  | filter => exact ⟨_, .rule (matches_separated (matches_run rfl fun _ _ => rfl)) whole, rfl⟩
  | alternatives =>
    exact ⟨_, .rule (matches_separated (matches_run rfl fun _ _ => rfl)) whole, rfl⟩
  | select => exact ⟨_, .rule (matches_separated (matches_run rfl fun _ _ => rfl)) whole, rfl⟩
  | clause => exact ⟨_, matches_run rfl (fun _ _ => rfl) text, rfl⟩
  | alternative => exact ⟨_, matches_run rfl (fun _ _ => rfl) text, rfl⟩
  | fieldName => exact ⟨_, matches_run rfl (fun _ _ => rfl) text, rfl⟩
  | direction => exact ⟨_, matches_direction text, rfl⟩
  | order => exact derives_order text
  | pathOnly => exact derives_pathOnly text
  | path =>
    refine ⟨_, matches_path text, ?_⟩
    rw [Option.map_map]
    rfl
  | segment =>
    refine ⟨_, matches_longest_segment text, ?_⟩
    unfold tokens?
    dsimp only
    split_ifs <;> rfl
  | finish =>
    cases text with
    | nil => exact ⟨_, matches_finish, rfl⟩
    | cons c rest => exact ⟨_, not_matches_finish, rfl⟩

/-- The tokens that reading works with are those that the parsing expression of the rule takes. -/
theorem derives_iff {rule : Rule} {text : Text} {found : Option (List Token)} :
    rule.Derives text found ↔ rule.tokens? text = found := by
  constructor
  · rintro ⟨outcome, matched, rfl⟩
    obtain ⟨outcome', matched', tokens⟩ := rule.derives_tokens? text
    rw [matched.unique matched', tokens]
  · rintro rfl
    exact rule.derives_tokens? text

end Rule

end TextQuery
