import TextQuery.Clause.Reading
import TextQuery.Proofs.Traversal

/-!
The pieces of a filter text. A text that is not blank has a clause for each piece between commas,
and a clause has a literal for each piece between bars, so it has at least one.
-/

namespace TextQuery

theorem Token.textsOf_pieceTokens {rule : Rule} (inner : rule ≠ .finish) (separator : Char)
    (text : Text) :
    textsOf rule (Grammar.pieceTokens rule separator text) = Text.pieces separator text := by
  have kept : ∀ token ∈ (Text.pieces separator text).map (Token.mk rule),
      decide (token.rule = rule) = true := by
    intro token member
    obtain ⟨piece, -, rfl⟩ := List.mem_map.1 member
    exact decide_eq_true rfl
  have dropped : decide (Token.finish.rule = rule) = false := decide_eq_false inner.symm
  unfold textsOf Grammar.pieceTokens
  rw [List.filter_append, List.filter_eq_self.2 kept, List.filter_cons, dropped,
    if_neg Bool.false_ne_true, List.filter_nil, List.append_nil, List.map_map]
  exact List.map_id _

namespace Clause

/-- A clause is divided at its operator, and its literals at the bars. -/
theorem read_eq_ok_iff {text : Text} {clause : Clause} :
    read text = .ok clause ↔
      ∃ detected path, Detected.ofClause text = .ok detected ∧
        PathExpr.read detected.left = .ok path ∧
        clause = ⟨path, detected.operator, Text.pieces '|' detected.right⟩ := by
  have scanned : ∀ right : Text, Rule.alternatives.scan right =
      .ok (Grammar.pieceTokens .alternative '|' right) := fun _ => rfl
  unfold read
  refine ⟨?_, ?_⟩
  · intro given
    obtain ⟨detected, found, given⟩ := bind_eq_ok_iff.1 given
    obtain ⟨path, pathRead, given⟩ := bind_eq_ok_iff.1 given
    rw [scanned] at given
    obtain ⟨tokens, same, given⟩ := bind_eq_ok_iff.1 given
    cases same
    cases given
    rw [Token.textsOf_pieceTokens (by decide)]
    exact ⟨detected, path, found, pathRead, rfl⟩
  · intro parts
    obtain ⟨detected, path, found, pathRead, rfl⟩ := parts
    refine bind_eq_ok_iff.2 ⟨detected, found, bind_eq_ok_iff.2 ⟨path, pathRead, ?_⟩⟩
    rw [scanned]
    refine bind_eq_ok_iff.2 ⟨_, rfl, ?_⟩
    rw [Token.textsOf_pieceTokens (by decide)]
    rfl

theorem values_ne_nil {text : Text} {clause : Clause} (given : read text = .ok clause) :
    clause.values ≠ [] := by
  obtain ⟨detected, path, -, -, rfl⟩ := read_eq_ok_iff.1 given
  exact Text.pieces_ne_nil _ _

theorem readAll_of_blank {text : Text} (blank : text.isBlank = true) : readAll text = .ok [] := by
  unfold readAll
  rw [if_pos blank]
  rfl

theorem readAll_of_not_blank {text : Text} (visible : text.isBlank = false) :
    readAll text = (Text.pieces ',' text).mapM read := by
  unfold readAll
  rw [if_neg (by rw [visible]; exact Bool.false_ne_true)]
  have scanned : Rule.filter.scan text = .ok (Grammar.pieceTokens .clause ',' text) := rfl
  rw [scanned]
  have pieces := Token.textsOf_pieceTokens (show Rule.clause ≠ .finish by decide) ',' text
  simp only [bind, Except.bind, pieces]

/-- A text that is not blank has clauses, and all of them have literals. -/
theorem nonempty_of_readAll {text : Text} (visible : text.isBlank = false) {clauses : List Clause}
    (given : readAll text = .ok clauses) :
    clauses ≠ [] ∧ ∀ clause ∈ clauses, clause.values ≠ [] := by
  rw [readAll_of_not_blank visible] at given
  refine ⟨?_, ?_⟩
  · exact ne_nil_of_mapM given (Text.pieces_ne_nil _ _)
  · intro clause member
    obtain ⟨piece, -, pieceRead⟩ := exists_of_mem_mapM given member
    exact values_ne_nil pieceRead

end Clause

end TextQuery
