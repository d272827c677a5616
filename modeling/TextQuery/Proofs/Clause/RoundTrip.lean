import TextQuery.Proofs.Clause.Detection
import TextQuery.Proofs.Clause.Paths
import TextQuery.Proofs.Clause.Pieces
import TextQuery.Proofs.Text.Splitting

/-!
Clauses written and read back. Writing joins at three levels, with commas, bars and dots, and puts a
marker between path and literals; reading finds the marker anywhere in the clause. So a clause comes
back exactly if its literals, and what they form together with its marker, hold no marker that is
found before its own (`Clause.Unambiguous`, `Clause.readAll_textAll_iff`). In the other direction
nothing is lost but the white space around the steps of paths (`Clause.shows_of_readAll`). Main
statement: `Clause.readAll_inverts_textAll`.
-/

namespace TextQuery

/-! ## Markers -/

namespace Operator

/-- A marker does not begin inside another one of its length. -/
theorem head_not_mem_marker {operator other : Operator}
    (sameLength : other.marker.length = operator.marker.length) (different : other ≠ operator) :
    ∀ c ∈ other.marker.head?, c ∉ operator.marker := by
  intro c head
  cases operator <;> cases other <;> simp_all [marker, eq_comm]

theorem isInfix_marker_append_iff {operator other : Operator} {text : Text}
    (sameLength : other.marker.length = operator.marker.length) (different : other ≠ operator) :
    other.marker <:+: operator.marker ++ text ↔ other.marker <:+: text :=
  Text.isInfix_append_iff (marker_ne_nil other) (head_not_mem_marker sameLength different)

end Operator

/-! ## Paths that can be written -/

namespace PathExpr

/-- The characters that end a step of a path, or belong to a marker. -/
def reserved : List Char :=
  ['.', '=', ',', '|', '!', '%', '<', '>']

/-- A path is plain if its steps are visible, trimmed and without reserved characters. -/
def Plain (path : PathExpr) : Prop :=
  path.steps ≠ [] ∧
    ∀ step ∈ path.steps, step ≠ [] ∧ step.trim = step ∧ ∀ c ∈ step, c ∉ reserved

instance : DecidablePred Plain := fun path =>
  decidable_of_iff
    (path.steps ≠ [] ∧ ∀ step ∈ path.steps, step ≠ [] ∧ step.trim = step ∧
      step.all (· ∉ reserved) = true)
    (by simp [Plain])

theorem Plain.eq_dot_of_reserved {path : PathExpr} (plain : path.Plain) {c : Char}
    (member : c ∈ path.text) (special : c ∈ reserved) : c = '.' := by
  rcases Text.mem_of_mem_join member with dot | ⟨step, isStep, within⟩
  · exact dot
  · exact absurd special ((plain.2 step isStep).2.2 c within)

theorem Plain.not_mem_text {path : PathExpr} (plain : path.Plain) {c : Char}
    (special : c ∈ reserved) (noDot : c ≠ '.') : c ∉ path.text :=
  fun member => noDot (plain.eq_dot_of_reserved member special)

theorem Plain.head_marker_not_mem {path : PathExpr} (plain : path.Plain) (operator : Operator) :
    ∀ c ∈ operator.marker.head?, c ∉ path.text := by
  intro c head
  have special : c ∈ reserved ∧ c ≠ '.' := by
    cases operator <;> cases head <;> decide
  exact plain.not_mem_text special.1 special.2

theorem Plain.isStep {path : PathExpr} (plain : path.Plain) :
    ∀ step ∈ path.steps, Grammar.IsStep step := by
  intro step isStep
  obtain ⟨visible, trimmed, clean⟩ := plain.2 step isStep
  refine ⟨visible, trimmed, fun c within => ?_⟩
  have noReserved : ∀ d ∈ ['.', '=', ',', '|'], c ≠ d := by
    rintro d member rfl
    exact clean c within (List.mem_of_mem_take (i := 4) member)
  refine Grammar.isSegmentChar_iff.2 ⟨noReserved '.' (by decide), Grammar.isPathChar_iff.2 ?_⟩
  exact ⟨noReserved '=' (by decide), noReserved ',' (by decide), noReserved '|' (by decide)⟩

end PathExpr

/-! ## Clauses that can be written -/

namespace Clause

/-- The literals with bars between them. -/
def literals (clause : Clause) : Text :=
  Text.join ['|'] clause.values

/-- A clause is plain if its path is, and it has literals, without commas and bars. -/
def Plain (clause : Clause) : Prop :=
  clause.path.Plain ∧ clause.values ≠ [] ∧ ∀ value ∈ clause.values, ',' ∉ value ∧ '|' ∉ value

instance : DecidablePred Plain := fun _ => inferInstanceAs (Decidable (_ ∧ _))

/-- A clause is unambiguous if no marker that is tried as early as its own can be found in its
literals, and none that is tried earlier in the text from its marker on. -/
def Unambiguous (clause : Clause) : Prop :=
  let marker := clause.operator.marker
  (marker.length = 2 ∧
    ∀ other : Operator, other.marker.length = 2 → other ≠ clause.operator →
      ¬ other.marker <:+: clause.literals) ∨
  (marker.length = 1 ∧
    (∀ other : Operator, other.marker.length = 2 → ¬ other.marker <:+: marker ++ clause.literals) ∧
    ∀ other : Operator, other.marker.length = 1 → other ≠ clause.operator →
      ¬ other.marker <:+: clause.literals)

instance : DecidablePred Unambiguous := fun _ => inferInstanceAs (Decidable (_ ∨ _))

section Plain

variable {clause : Clause}

theorem unambiguous_iff_of_double (double : clause.operator.marker.length = 2) :
    clause.Unambiguous ↔
      ∀ other : Operator, other.marker.length = 2 → other ≠ clause.operator →
        ¬ other.marker <:+: clause.literals := by
  have notSingle : clause.operator.marker.length ≠ 1 := by omega
  exact (or_iff_left fun single => notSingle single.1).trans (and_iff_right double)

theorem unambiguous_iff_of_single (single : clause.operator.marker.length = 1) :
    clause.Unambiguous ↔
      (∀ other : Operator, other.marker.length = 2 →
        ¬ other.marker <:+: clause.operator.marker ++ clause.literals) ∧
      ∀ other : Operator, other.marker.length = 1 → other ≠ clause.operator →
        ¬ other.marker <:+: clause.literals := by
  have notDouble : clause.operator.marker.length ≠ 2 := by omega
  exact (or_iff_right fun double => notDouble double.1).trans (and_iff_right single)

theorem text_eq : clause.text = clause.path.text ++ (clause.operator.marker ++ clause.literals) :=
  List.append_assoc _ _ _

theorem Plain.isInfix_text_iff (plain : clause.Plain) (other : Operator) :
    other.marker <:+: clause.text ↔
      other.marker <:+: clause.operator.marker ++ clause.literals := by
  rw [text_eq]
  exact Text.isInfix_append_iff other.marker_ne_nil (plain.1.head_marker_not_mem other)

theorem Plain.cutAt?_text (plain : clause.Plain) :
    Text.cutAt? clause.operator.marker clause.text = some (clause.path.text, clause.literals) :=
  Text.cutAt?_append clause.operator.marker_ne_nil (plain.1.head_marker_not_mem clause.operator)

/-- A plain clause is divided at its own marker exactly if it is unambiguous. -/
theorem Plain.ofClause_text_iff (plain : clause.Plain) :
    Detected.ofClause clause.text = .ok ⟨clause.operator, clause.path.text, clause.literals⟩ ↔
      clause.Unambiguous := by
  -- with the path out of the way, a marker of the clause's length cannot begin in its marker
  have sameTier : ∀ other : Operator, other.marker.length = clause.operator.marker.length →
      other ≠ clause.operator →
      (¬ other.marker <:+: clause.text ↔ ¬ other.marker <:+: clause.literals) := by
    intro other sameLength different
    rw [plain.isInfix_text_iff, Operator.isInfix_marker_append_iff sameLength different]
  rcases clause.operator.marker_length with single | double
  · rw [Detected.ofClause_eq_ok_iff_of_single single, and_iff_right plain.cutAt?_text,
      unambiguous_iff_of_single single]
    refine and_congr ?_ ?_
    · exact forall₂_congr fun other _ => not_congr (plain.isInfix_text_iff other)
    · exact forall₃_congr fun other short different =>
        sameTier other (short.trans single.symm) different
  · rw [Detected.ofClause_eq_ok_iff_of_double double, and_iff_right plain.cutAt?_text,
      unambiguous_iff_of_double double]
    exact forall₃_congr fun other long different =>
      sameTier other (long.trans double.symm) different

/-- A plain clause comes back from its text exactly if it is unambiguous. -/
theorem Plain.read_text_iff (plain : clause.Plain) :
    read clause.text = .ok clause ↔ clause.Unambiguous := by
  have values : Text.pieces '|' clause.literals = clause.values :=
    Text.pieces_join plain.2.1 fun value isValue => (plain.2.2 value isValue).2
  rw [← plain.ofClause_text_iff, read_eq_ok_iff]
  refine ⟨?_, ?_⟩
  · rintro ⟨⟨operator, left, right⟩, path, found, -, same⟩
    have sameOperator : clause.operator = operator := congrArg Clause.operator same
    have cut := Detected.cutAt?_of_ofClause found
    dsimp only at cut
    rw [← sameOperator, plain.cutAt?_text] at cut
    obtain ⟨rfl, rfl⟩ := Prod.mk.inj (Option.some.inj cut)
    rw [found, sameOperator]
  · intro found
    refine ⟨_, clause.path, found, PathExpr.read_text plain.1.isStep plain.1.1, ?_⟩
    rw [values]

end Plain

/-! ## Filters that can be written -/

section Filter

variable {clauses : List Clause}

/-- The text of a filter: its clauses with commas between them. -/
def textAll (clauses : List Clause) : Text :=
  Text.join [','] (clauses.map text)

theorem Plain.comma_not_mem_text {clause : Clause} (plain : clause.Plain) : ',' ∉ clause.text := by
  have notMarker : ∀ operator : Operator, ',' ∉ operator.marker := by decide
  rw [text_eq]
  intro member
  rcases List.mem_append.1 member with inPath | member
  · exact plain.1.not_mem_text (by decide) (by decide) inPath
  rcases List.mem_append.1 member with inMarker | inLiterals
  · exact notMarker _ inMarker
  rcases Text.mem_of_mem_join inLiterals with isBar | ⟨value, isValue, within⟩
  · exact absurd isBar (by decide)
  · exact (plain.2.2 value isValue).1 within

theorem isBlank_textAll (nonempty : clauses ≠ []) : (textAll clauses).isBlank = false := by
  have visible : ∀ operator : Operator, ∃ c ∈ operator.marker, Text.isWhiteSpace c = false := by
    intro operator
    cases operator <;> exact ⟨_, List.mem_cons_self, rfl⟩
  obtain ⟨clause, isClause⟩ := List.exists_mem_of_ne_nil clauses nonempty
  obtain ⟨c, inMarker, isVisible⟩ := visible clause.operator
  have inText : c ∈ clause.text := by
    rw [text_eq]
    exact List.mem_append_right _ (List.mem_append_left _ inMarker)
  refine List.all_eq_false.2 ⟨c, ?_, by rw [isVisible]; exact Bool.false_ne_true⟩
  exact Text.mem_join_of_mem (List.mem_map.2 ⟨clause, isClause, rfl⟩) inText

theorem pieces_textAll (nonempty : clauses ≠ []) (plain : ∀ clause ∈ clauses, clause.Plain) :
    Text.pieces ',' (textAll clauses) = clauses.map text := by
  refine Text.pieces_join (mt List.map_eq_nil_iff.1 nonempty) ?_
  intro part isPart
  obtain ⟨clause, isClause, rfl⟩ := List.mem_map.1 isPart
  exact (plain clause isClause).comma_not_mem_text

/-- Plain clauses come back from their text exactly if each of them is unambiguous. -/
theorem readAll_textAll_iff (nonempty : clauses ≠ []) (plain : ∀ clause ∈ clauses, clause.Plain) :
    readAll (textAll clauses) = .ok clauses ↔ ∀ clause ∈ clauses, clause.Unambiguous := by
  rw [readAll_of_not_blank (isBlank_textAll nonempty), pieces_textAll nonempty plain,
    mapM_eq_ok_iff, List.forall₂_map_left_iff, List.forall₂_same]
  exact forall₂_congr fun clause isClause => (plain clause isClause).read_text_iff

end Filter

/-! ## Texts that were read -/

/-- A piece of a filter text shows a clause: it is a text of the clause's path, its marker, and its
literals as they are. -/
def Shows (piece : Text) (clause : Clause) : Prop :=
  ∃ path : Text, piece = path ++ clause.operator.marker ++ clause.literals ∧
    (Text.pieces '.' path).map Text.trim = clause.path.steps

theorem shows_of_read {piece : Text} {clause : Clause} (given : read piece = .ok clause) :
    Shows piece clause := by
  obtain ⟨detected, path, found, pathRead, rfl⟩ := read_eq_ok_iff.1 given
  refine ⟨detected.left, ?_, (PathExpr.read_eq_ok_iff.1 pathRead).2.2.symm⟩
  rw [literals, Text.join_pieces]
  exact Text.eq_of_cutAt? (Detected.cutAt?_of_ofClause found)

theorem shows_of_readAll {text : Text} {clauses : List Clause}
    (given : readAll text = .ok clauses) (nonempty : clauses ≠ []) :
    List.Forall₂ Shows (Text.pieces ',' text) clauses := by
  have visible : text.isBlank = false := by
    rw [← Bool.not_eq_true]
    intro blank
    rw [readAll_of_blank blank] at given
    exact nonempty (Except.ok.inj given).symm
  rw [readAll_of_not_blank visible, mapM_eq_ok_iff] at given
  exact given.imp fun piece clause => shows_of_read

/-- Reading undoes writing for exactly the unambiguous clauses, and writing undoes reading up to the
white space around steps of paths. -/
theorem readAll_inverts_textAll :
    (∀ clauses : List Clause, clauses ≠ [] → (∀ clause ∈ clauses, clause.Plain) →
      (readAll (textAll clauses) = .ok clauses ↔ ∀ clause ∈ clauses, clause.Unambiguous)) ∧
    (∀ (text : Text) (clauses : List Clause), readAll text = .ok clauses → clauses ≠ [] →
      List.Forall₂ Shows (Text.pieces ',' text) clauses) := by
  refine ⟨?_, ?_⟩
  · intro clauses nonempty plain
    exact readAll_textAll_iff nonempty plain
  · intro text clauses given nonempty
    exact shows_of_readAll given nonempty

theorem readAll_inverts_textAll_age :
    let atLeast : Clause := ⟨⟨["age".toList]⟩, .greaterOrEqual, ["27".toList]⟩
    let more : Clause := ⟨⟨["age".toList]⟩, .greaterThan, ["=27".toList]⟩
    let friends : Clause := ⟨⟨["friends".toList, "name".toList]⟩, .contains, ["l u".toList, []]⟩
    readAll (textAll [atLeast, friends]) = .ok [atLeast, friends] ∧
    textAll [more] = textAll [atLeast] ∧ readAll (textAll [more]) ≠ .ok [more] ∧
    List.Forall₂ Shows (Text.pieces ',' " friends . name %l u|,age>=27".toList)
      [friends, atLeast] := by
  intro atLeast more friends
  refine ⟨?_, rfl, ?_, ?_⟩
  · have plain : ∀ clause ∈ [atLeast, friends], clause.Plain := by decide +kernel
    have unambiguous : ∀ clause ∈ [atLeast, friends], clause.Unambiguous := by decide +kernel
    exact (readAll_inverts_textAll.1 [atLeast, friends] (by simp) plain).2 unambiguous
  · intro read
    have plain : ∀ clause ∈ [more], clause.Plain := by decide +kernel
    have unambiguous := (readAll_inverts_textAll.1 [more] (by simp) plain).1 read
    exact absurd unambiguous (by decide +kernel)
  · exact readAll_inverts_textAll.2 _ [friends, atLeast] (by decide +kernel) (by simp)

end Clause

end TextQuery
