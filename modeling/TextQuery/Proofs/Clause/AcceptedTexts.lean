import TextQuery.Proofs.Clause.ParsingExpressions
import TextQuery.Proofs.Filter.Faults
import TextQuery.Proofs.Query.Orderings
import TextQuery.Proofs.Query.Selections

/-!
What the readers of query texts accept, refuse and give, told without the grammar. A path is a text
that `PathExpr.Spelled` describes, an ordering is read as `OrderBy.Reads` says
(`OrderBy.reads_iff`), a selection is always read, and no reader ever finds a text outside the
grammar. Main statement: `readers_accept`.
-/

namespace TextQuery

/-! ## Paths -/

namespace PathExpr

/-- A text spells a path: it holds no character that ends one, and no part of it between dots is
blank. -/
def Spelled (text : Text) : Prop :=
  (∀ c ∈ text, c ≠ '=' ∧ c ≠ ',' ∧ c ≠ '|') ∧ ∀ part ∈ Text.pieces '.' text, part.isBlank = false

instance : DecidablePred Spelled := fun text =>
  decidable_of_iff (text.all Grammar.isPathChar = true ∧
    (Text.pieces '.' text).all (!·.isBlank) = true) (by simp [Spelled, Grammar.isPathChar_iff])

/-- The path of the parts between dots, trimmed. -/
def ofParts (text : Text) : PathExpr :=
  ⟨(Text.pieces '.' text).map Text.trim⟩

theorem nil_not_mem_map_trim_iff {parts : List Text} :
    [] ∉ parts.map Text.trim ↔ ∀ part ∈ parts, part.isBlank = false := by
  simp [← Text.isBlank_iff_trim_eq_nil]

theorem spelled_iff {text : Text} :
    Spelled text ↔ (∀ c ∈ text, Grammar.isPathChar c = true) ∧
      [] ∉ (Text.pieces '.' text).map Text.trim := by
  simp only [Spelled, nil_not_mem_map_trim_iff, Grammar.isPathChar_iff]

theorem Spelled.isPath {text : Text} (spelled : Spelled text) : Grammar.IsPath text := by
  obtain ⟨chars, visible⟩ := spelled_iff.1 spelled
  refine ⟨fun empty => visible (List.mem_map.2 ⟨[], empty, rfl⟩), chars⟩

theorem Spelled.ofSegments? {text : Text} (spelled : Spelled text) :
    ofSegments? (Text.pieces '.' text) = some (ofParts text) :=
  ofSegments?_eq_some_iff.2 ⟨(spelled_iff.1 spelled).2, rfl⟩

/-- White space around a text is of no account to the path that it spells. -/
theorem spelled_trim_iff {text : Text} :
    Spelled text ↔ (∀ c ∈ text, c ≠ '=' ∧ c ≠ ',' ∧ c ≠ '|') ∧
      ∀ part ∈ Text.pieces '.' text.trim, part.isBlank = false := by
  rw [Spelled, ← nil_not_mem_map_trim_iff, ← nil_not_mem_map_trim_iff,
    Text.map_trim_pieces_trim (by decide)]

theorem ofParts_trim (text : Text) : ofParts text.trim = ofParts text :=
  congrArg PathExpr.mk (Text.map_trim_pieces_trim (by decide) text)

theorem read_eq_ok_iff_spelled {text : Text} {path : PathExpr} :
    read text = .ok path ↔ Spelled text ∧ path = ofParts text := by
  rw [read_eq_ok_iff, ← and_assoc, ← spelled_iff]
  refine and_congr_right fun _ => ⟨?_, ?_⟩
  · intro steps
    cases path
    exact congrArg PathExpr.mk steps
  · rintro rfl
    rfl

theorem read_eq_error_iff {text : Text} {error : ParseError} :
    read text = .error error ↔ ¬ Spelled text ∧ error = .malformedPath text := by
  constructor
  · intro failed
    refine ⟨fun spelled => ?_, eq_malformedPath failed⟩
    rw [read_eq_ok_iff_spelled.2 ⟨spelled, rfl⟩] at failed
    cases failed
  · rintro ⟨unspelled, rfl⟩
    cases outcome : read text with
    | error error => rw [eq_malformedPath outcome]
    | ok path => exact absurd (read_eq_ok_iff_spelled.1 outcome).1 unspelled

end PathExpr

open PathExpr (Spelled)

/-! ## Orderings -/

namespace Direction

/-- A direction is read from its name in any case, with any white space around it. -/
theorem read?_eq_some_iff {text : Text} {direction : Direction} :
    read? text = some direction ↔ text.trim.eqIgnoreAsciiCase direction.name = true := by
  have ascending : "asc".toList.map Char.toLower = asc.name.map Char.toLower := by decide
  have descending : "desc".toList.map Char.toLower = desc.name.map Char.toLower := by decide
  have apart : asc.name.map Char.toLower ≠ desc.name.map Char.toLower := by decide
  unfold read? Text.eqIgnoreAsciiCase
  simp only [ascending, descending, decide_eq_true_iff]
  cases direction <;> grind

theorem readGiven_of_eqIgnoreAsciiCase {text : Text} {direction : Direction}
    (named : text.trim.eqIgnoreAsciiCase direction.name = true) :
    readGiven text = .ok direction := by
  unfold readGiven
  rw [read?_eq_some_iff.2 named]

theorem readGiven_of_unnamed {text : Text}
    (unnamed : ∀ direction : Direction, text.trim.eqIgnoreAsciiCase direction.name = false) :
    readGiven text = .error (.invalidDirection text) := by
  unfold readGiven
  cases known : read? text with
  | none => rfl
  | some direction =>
    rw [read?_eq_some_iff, unnamed direction] at known
    cases known

end Direction

namespace OrderBy

/-- What an ordering is read as. The path is what stands in front of the first `=`, and the
direction is all that follows it. -/
inductive Reads : Text → Except ParseError (Option OrderBy) → Prop
  | blank {text : Text} : text.isBlank = true → Reads text (.ok none)
  | malformed {text : Text} : text.isBlank = false → ¬ Spelled (text.takeWhile (· ≠ '=')) →
    Reads text (.error (.malformedPath text.trim))
  | undirected {path : Text} : Spelled path → Reads path (.ok (some ⟨.ofParts path, none⟩))
  | directed {path given : Text} {direction : Direction} : Spelled path →
    given.trim.eqIgnoreAsciiCase direction.name = true →
    Reads (path ++ '=' :: given) (.ok (some ⟨.ofParts path, some direction⟩))
  | misdirected {path given : Text} : Spelled path →
    (∀ direction : Direction, given.trim.eqIgnoreAsciiCase direction.name = false) →
    Reads (path ++ '=' :: given) (.error (.invalidDirection given))

theorem isBlank_of_spelled {path : Text} (spelled : Spelled path) : path.isBlank = false := by
  by_contra blank
  rw [Bool.not_eq_false] at blank
  have oneBlank : [] ∈ (Text.pieces '.' path).map Text.trim := by
    rw [← Text.map_trim_pieces_trim (by decide), Text.isBlank_iff_trim_eq_nil.1 blank]
    exact List.mem_singleton.2 rfl
  exact (PathExpr.spelled_iff.1 spelled).2 oneBlank

theorem isBlank_directed (path given : Text) : Text.isBlank (path ++ '=' :: given) = false :=
  List.all_eq_false.2 ⟨'=', by simp, by decide⟩

/-- The grammar takes nothing for the path of an ordering but what stands in front of the first
`=`. -/
theorem spelled_of_tokens? {text : Text} {tokens : List Token} {path : PathExpr}
    (found : Rule.order.tokens? text = some tokens)
    (built : PathExpr.ofSegments? (Token.textsOf .segment tokens) = some path) :
    Spelled (text.takeWhile (· ≠ '=')) := by
  obtain ⟨rest, taken, ends⟩ := Grammar.tokens?_order_cases found
  have stop : ∀ c ∈ rest.head?, c = '=' := by
    rcases ends with ⟨rfl, -⟩ | ⟨direction, rfl, -⟩
    · exact nofun
    · exact fun c first => (Option.some.inj first).symm
  have parts := Grammar.pieces_takeWhile_of_path? taken stop
  refine PathExpr.spelled_iff.2 ⟨fun c member => ?_, ?_⟩
  · rw [← Text.join_pieces '.' (text.takeWhile _), parts] at member
    rcases Text.mem_of_mem_join member with rfl | ⟨segment, isSegment, within⟩
    · rfl
    · have chars := (Grammar.eq_join_of_path? taken).2.2
      exact (Grammar.isSegmentChar_iff.1 (chars segment isSegment c within)).2
  · rw [parts]
    exact (PathExpr.ofSegments?_eq_some_iff.1 built).1

theorem read_of_not_spelled {text : Text} (visible : text.isBlank = false)
    (malformed : ¬ Spelled (text.takeWhile (· ≠ '='))) :
    read text = .error (.malformedPath text.trim) := by
  unfold read
  rw [if_neg (by rw [visible]; exact Bool.false_ne_true)]
  cases found : Rule.order.tokens? text with
  | none => rfl
  | some tokens =>
    dsimp only
    cases built : PathExpr.ofSegments? (Token.textsOf .segment tokens) with
    | none => rfl
    | some path => exact absurd (spelled_of_tokens? found built) malformed

section Spelled

variable {path : Text} (spelled : Spelled path)

include spelled

theorem read_of_spelled : read path = .ok (some ⟨.ofParts path, none⟩) :=
  read_eq_of_tokens? (isBlank_of_spelled spelled) (Grammar.tokens?_order_path spelled.isPath)
    (by simp [Token.finish]) spelled.ofSegments?

/-- With an `=` behind the path it is up to the direction. -/
theorem read_directed (given : Text) :
    read (path ++ '=' :: given) =
      (Direction.readGiven given).map fun direction => some ⟨.ofParts path, some direction⟩ := by
  rw [read_eq_of_tokens? (isBlank_directed path given)
    (Grammar.tokens?_order_directed spelled.isPath given) (by simp [Token.finish])
    spelled.ofSegments?]
  cases known : Direction.readGiven given <;> simp [Token.textsOf, known] <;> rfl

end Spelled

theorem read_of_reads {text : Text} {outcome : Except ParseError (Option OrderBy)}
    (reads : Reads text outcome) : read text = outcome := by
  cases reads with
  | blank isBlank => exact if_pos isBlank
  | malformed visible malformed => exact read_of_not_spelled visible malformed
  | undirected spelled => exact read_of_spelled spelled
  | directed spelled named =>
    rw [read_directed spelled, Direction.readGiven_of_eqIgnoreAsciiCase named]
    rfl
  | misdirected spelled unnamed =>
    rw [read_directed spelled, Direction.readGiven_of_unnamed unnamed]
    rfl

theorem exists_reads (text : Text) : ∃ outcome, Reads text outcome := by
  by_cases blank : text.isBlank = true
  · exact ⟨_, .blank blank⟩
  by_cases spelled : Spelled (text.takeWhile (· ≠ '='))
  · have split : text.takeWhile (· ≠ '=') ++ text.dropWhile (· ≠ '=') = text :=
      List.takeWhile_append_dropWhile
    cases rest : text.dropWhile (· ≠ '=') with
    | nil =>
      rw [rest, List.append_nil] at split
      rw [split] at spelled
      exact ⟨_, .undirected spelled⟩
    | cons c given =>
      obtain ⟨rfl, -⟩ := Text.tail_pieces_of_dropWhile rest
      rw [rest] at split
      rw [← split]
      by_cases named : ∃ direction : Direction,
          (Text.trim given).eqIgnoreAsciiCase direction.name = true
      · obtain ⟨direction, named⟩ := named
        exact ⟨_, .directed spelled named⟩
      · refine ⟨_, .misdirected spelled fun direction => ?_⟩
        exact Bool.eq_false_iff.2 fun same => named ⟨direction, same⟩
  · exact ⟨_, .malformed (Bool.eq_false_iff.2 blank) spelled⟩

theorem reads_iff {text : Text} {outcome : Except ParseError (Option OrderBy)} :
    Reads text outcome ↔ read text = outcome := by
  constructor
  · exact read_of_reads
  · rintro rfl
    obtain ⟨outcome, reads⟩ := exists_reads text
    rwa [read_of_reads reads]

/-- A path is an ordering without `=`. -/
theorem read_path_iff {text : Text} {path : PathExpr} :
    PathExpr.read text = .ok path ↔
      '=' ∉ text ∧ ∃ direction, read text = .ok (some ⟨path, direction⟩) := by
  rw [PathExpr.read_eq_ok_iff_spelled]
  constructor
  · rintro ⟨spelled, rfl⟩
    exact ⟨fun member => (spelled.1 '=' member).1 rfl, none, read_of_spelled spelled⟩
  · rintro ⟨plain, direction, given⟩
    have reads := reads_iff.2 given
    cases reads with
    | undirected spelled => exact ⟨spelled, rfl⟩
    | directed _ _ => simp at plain

end OrderBy

/-! ## Texts outside the grammar -/

namespace Clause

theorem readAll_ne_outsideGrammar (text inner : Text) :
    readAll text ≠ .error (.outsideGrammar inner) := by
  intro failed
  by_cases blank : text.isBlank = true
  · rw [readAll_of_blank blank] at failed
    cases failed
  · rw [readAll_of_not_blank (Bool.eq_false_iff.2 blank), ← errorOf?_eq_some_iff,
      errorOf?_mapM] at failed
    obtain ⟨piece, -, failed⟩ := List.exists_of_findSome?_eq_some failed
    rw [errorOf?_read, parseFault?] at failed
    split at failed
    · cases failed
    · split at failed <;> cases failed

end Clause

/-- The clauses of a filter are all that the grammar finds in it. -/
theorem Rule.mem_filter_cases {text : Text} {tokens : List Token}
    (found : Rule.filter.tokens? text = some tokens) :
    ∀ token ∈ tokens, token.rule = .clause ∨ token.rule = .finish := by
  cases found
  intro token member
  rcases List.mem_append.1 member with member | member
  · obtain ⟨piece, -, rfl⟩ := List.mem_map.1 member
    exact Or.inl rfl
  · rw [List.mem_singleton.1 member]
    exact Or.inr rfl

/-- A path with its segments and a direction are all that the grammar finds in an ordering. -/
theorem Rule.mem_order_cases {text : Text} {tokens : List Token}
    (found : Rule.order.tokens? text = some tokens) :
    ∀ token ∈ tokens, token.rule ∈ [.path, .segment, .direction, .finish] := by
  have ofPath : ∀ segments : List Text, ∀ token ∈ Grammar.pathTokens segments,
      token.rule ∈ [.path, .segment, .direction, .finish] := by
    intro segments token member
    rcases List.mem_cons.1 member with rfl | member
    · simp
    · obtain ⟨segment, -, rfl⟩ := List.mem_map.1 member
      simp
  unfold Rule.tokens? at found
  dsimp only at found
  split at found
  · cases found
    refine List.forall_mem_append.2 ⟨ofPath _, ?_⟩
    simp [Token.finish]
  · cases found
    refine List.forall_mem_append.2 ⟨ofPath _, ?_⟩
    simp [Token.finish]
  · cases found

/-- Exactly the intended texts are accepted. The tokens are those of the parsing expressions. A path
is a text without `=`, comma and bar whose parts between dots are visible, trimmed or not; an
ordering is read as `OrderBy.Reads` says, so without `=` it is accepted where a path is, with the
same steps; a selection always gives its visible pieces, trimmed; and no text is ever outside the
grammar, nor has a filter or an ordering a token of a rule that its reader does not know. -/
theorem readers_accept (text : Text) :
    (∀ (rule : Rule) found, rule.Derives text found ↔ rule.tokens? text = found) ∧
    (∀ path, PathExpr.read text = .ok path ↔
      ((∀ c ∈ text, c ≠ '=' ∧ c ≠ ',' ∧ c ≠ '|') ∧
        ∀ part ∈ Text.pieces '.' text.trim, part.isBlank = false) ∧
      path = ⟨(Text.pieces '.' text.trim).map Text.trim⟩) ∧
    (∀ error, PathExpr.read text = .error error ↔
      ¬ ((∀ c ∈ text, c ≠ '=' ∧ c ≠ ',' ∧ c ≠ '|') ∧
        ∀ part ∈ Text.pieces '.' text.trim, part.isBlank = false) ∧
      error = .malformedPath text) ∧
    (∀ outcome, OrderBy.Reads text outcome ↔ OrderBy.read text = outcome) ∧
    (∀ path, PathExpr.read text = .ok path ↔
      '=' ∉ text ∧ ∃ direction, OrderBy.read text = .ok (some ⟨path, direction⟩)) ∧
    readSelection text =
      .ok (((Text.pieces ',' text).filter fun piece => !piece.isBlank).map Text.trim) ∧
    (∀ inner, Clause.readAll text ≠ .error (.outsideGrammar inner) ∧
      OrderBy.read text ≠ .error (.outsideGrammar inner) ∧
      readSelection text ≠ .error (.outsideGrammar inner) ∧
      PathExpr.read text ≠ .error (.outsideGrammar inner)) ∧
    (∀ tokens, Rule.filter.tokens? text = some tokens →
      ∀ token ∈ tokens, token.rule = .clause ∨ token.rule = .finish) ∧
    ∀ tokens, Rule.order.tokens? text = some tokens →
      ∀ token ∈ tokens, token.rule ∈ [.path, .segment, .direction, .finish] := by
  have selection : readSelection text = _ := readSelection_eq text
  refine ⟨fun rule found => Rule.derives_iff, ?_, ?_, fun _ => OrderBy.reads_iff,
    fun _ => OrderBy.read_path_iff, ?_, ?_, fun _ => Rule.mem_filter_cases,
    fun _ => Rule.mem_order_cases⟩
  · intro path
    rw [PathExpr.read_eq_ok_iff_spelled, PathExpr.spelled_trim_iff, ← PathExpr.ofParts_trim]
    rfl
  · intro error
    rw [PathExpr.read_eq_error_iff, PathExpr.spelled_trim_iff]
  · rw [selection, selectedNames_eq]
  · intro inner
    refine ⟨Clause.readAll_ne_outsideGrammar text inner, ?_, ?_, ?_⟩
    · intro failed
      rcases OrderBy.read_error_cases failed with same | ⟨direction, same, -⟩ <;> cases same
    · rw [selection]
      exact nofun
    · intro failed
      cases PathExpr.eq_malformedPath failed

/-- A spaced path is an ordering too, and the grammar finds only its path in it. -/
theorem readers_accept_spaced :
    OrderBy.read " a . b ".toList = .ok (some ⟨⟨["a".toList, "b".toList]⟩, none⟩) ∧
      PathExpr.read " a . b ".toList = .ok ⟨["a".toList, "b".toList]⟩ ∧
      Rule.filter.tokens? " a . b ".toList = some [⟨.clause, " a . b ".toList⟩, .finish] ∧
      ∀ token ∈ [⟨.clause, " a . b ".toList⟩, Token.finish],
        token.rule = .clause ∨ token.rule = .finish := by
  obtain ⟨-, -, -, orders, paths, -, -, clauses, -⟩ := readers_accept " a . b ".toList
  have spelled : Spelled " a . b ".toList := by decide
  have order := (orders _).1 (.undirected spelled)
  have plain : '=' ∉ " a . b ".toList := by decide
  exact ⟨order, (paths _).2 ⟨plain, none, order⟩, by decide, clauses _ (by decide)⟩

end TextQuery
