import TextQuery.Proofs.Clause.Detection
import TextQuery.Proofs.Clause.Pieces
import TextQuery.Proofs.Filter.Conditions

/-!
What is wrong with a filter text. Its pieces are read before any of them is compiled, so the faults
come in two rounds: those of the pieces that are no clauses, then those of the clauses against the
schema, each round in the order of the text (`Filter.faults`). Main statements: a filter text that
is not blank compiles exactly if every piece reads, resolves and coerces (`Filter.compiles_iff`),
and otherwise the first fault is reported (`Filter.errorOf?_compile`).
-/

namespace TextQuery

variable {ι : Type}

/-! ## Pieces that are no clauses -/

theorem PathExpr.eq_malformedPath {text : Text} {error : ParseError}
    (failed : read text = .error error) : error = .malformedPath text := by
  unfold read at failed
  split at failed
  · split at failed
    · cases failed
    · cases failed
      rfl
  · cases failed
    rfl

namespace Clause

/-- Why a piece of a filter text is no clause: it has no operator, or what stands to the left of
its operator is no path. -/
def parseFault? (piece : Text) : Option ParseError :=
  match Detected.ofClause piece with
  | .error _ => some (.malformedClause piece)
  | .ok detected =>
    match PathExpr.read detected.left with
    | .error _ => some (.malformedPath detected.left)
    | .ok _ => none

theorem errorOf?_read (piece : Text) : errorOf? (read piece) = parseFault? piece := by
  unfold read parseFault?
  rw [errorOf?_bind]
  cases detection : Detected.ofClause piece with
  | error error =>
    rw [Detected.eq_malformedClause detection]
    rfl
  | ok detected =>
    dsimp only [Except.toOption, Option.bind_some]
    rw [errorOf?_ok, Option.none_or, errorOf?_bind]
    cases left : PathExpr.read detected.left with
    | error error =>
      rw [PathExpr.eq_malformedPath left]
      rfl
    | ok path => rfl

/-! ## Clauses that do not fit the schema -/

section Schema

variable (catalog : Catalog ι) (options : CompileOptions) (root : Schema ι)

/-- What is wrong with a clause, in order: its path does not resolve, or else literals of it cannot
be read for the type at the end of the path. -/
def faults (clause : Clause) : List CompileError :=
  match PropertyPath.resolve catalog root clause.path with
  | .error error => [error]
  | .ok path => clause.values.filterMap fun literal =>
    errorOf? (Literal.read catalog options path.terminal clause.operator literal)

/-- The path of a clause resolves, and all its literals can be read for the type at its end. -/
def Fits (clause : Clause) : Prop :=
  ∃ path, PropertyPath.resolve catalog root clause.path = .ok path ∧
    ∀ literal ∈ clause.values, ∃ value,
      Literal.read catalog options path.terminal clause.operator literal = .ok value

theorem errorOf?_compile (clause : Clause) :
    errorOf? (clause.compile catalog options root) =
      (clause.faults catalog options root).head? := by
  unfold compile faults
  rw [errorOf?_bind]
  cases PropertyPath.resolve catalog root clause.path with
  | error error => rfl
  | ok path =>
    dsimp only [Except.toOption, Option.bind_some]
    rw [errorOf?_ok, Option.none_or, errorOf?_mapM, List.head?_filterMap]
    refine congrArg (List.findSome? · clause.values) (funext fun literal => ?_)
    exact errorOf?_map _ _

theorem compiles_iff (clause : Clause) :
    (∃ conditions, clause.compile catalog options root = .ok conditions) ↔
      clause.Fits catalog options root := by
  unfold compile Fits
  simp only [bind_eq_ok_iff]
  rw [exists_comm]
  refine exists_congr fun path => ?_
  rw [exists_and_left, exists_mapM_eq_ok_iff]
  refine and_congr_right fun _ => forall₂_congr fun literal _ => ?_
  unfold Condition.compile
  simp only [map_eq_ok_iff]
  refine ⟨?_, ?_⟩
  · intro compiled
    obtain ⟨-, value, read, -⟩ := compiled
    exact ⟨value, read⟩
  · intro reads
    obtain ⟨value, read⟩ := reads
    exact ⟨_, value, read, rfl⟩

end Schema

end Clause

/-! ## Filter texts -/

namespace Filter

section Schema

variable (catalog : Catalog ι) (options : CompileOptions) (root : Schema ι)

/-- What is wrong with a filter text, in the order in which it is found: pieces that are no clauses,
then clauses that do not fit the schema. -/
def faults (text : Text) : List CompileError :=
  let pieces := Text.pieces ',' text
  (pieces.filterMap Clause.parseFault?).map .parse ++
    (pieces.filterMap fun piece => (Clause.read piece).toOption).flatMap
      (Clause.faults catalog options root)

variable {text : Text}

/-- A filter text that is not blank compiles exactly if each of its pieces is a clause that fits the
schema. -/
theorem compiles_iff (visible : text.isBlank = false) :
    (∃ filter, compile catalog options root text = .ok filter) ↔
      ∀ piece ∈ Text.pieces ',' text, ∃ clause, Clause.read piece = .ok clause ∧
        clause.Fits catalog options root := by
  simp only [compile_eq_ok_iff, Clause.readAll_of_not_blank visible]
  refine ⟨?_, ?_⟩
  · intro compiled
    obtain ⟨filter, clauses, conditions, read, compiled, -⟩ := compiled
    intro piece member
    obtain ⟨clause, pieceRead⟩ := exists_mapM_eq_ok_iff.1 ⟨clauses, read⟩ piece member
    have within : clause ∈ clauses := by
      rw [← filterMap_toOption_of_mapM read]
      refine List.mem_filterMap.2 ⟨piece, member, ?_⟩
      rw [pieceRead]
      rfl
    refine ⟨clause, pieceRead, (Clause.compiles_iff catalog options root clause).1 ?_⟩
    exact exists_mapM_eq_ok_iff.1 ⟨conditions, compiled⟩ clause within
  · intro fits
    have reads : ∀ piece ∈ Text.pieces ',' text, ∃ clause, Clause.read piece = .ok clause := by
      intro piece member
      obtain ⟨clause, pieceRead, -⟩ := fits piece member
      exact ⟨clause, pieceRead⟩
    obtain ⟨clauses, read⟩ := exists_mapM_eq_ok_iff.2 reads
    have compiles : ∀ clause ∈ clauses, ∃ conditions,
        clause.compile catalog options root = .ok conditions := by
      intro clause member
      obtain ⟨piece, within, pieceRead⟩ := exists_of_mem_mapM read member
      obtain ⟨clause', pieceRead', clauseFits⟩ := fits piece within
      rw [pieceRead] at pieceRead'
      cases pieceRead'
      exact (Clause.compiles_iff catalog options root clause).2 clauseFits
    obtain ⟨conditions, compiled⟩ := exists_mapM_eq_ok_iff.2 compiles
    exact ⟨_, clauses, conditions, read, compiled, rfl⟩

/-- A filter text that does not compile is refused with its first fault. -/
theorem errorOf?_compile (visible : text.isBlank = false) :
    errorOf? (compile catalog options root text) =
      (faults catalog options root text).head? := by
  have firstParseFault :
      errorOf? ((Text.pieces ',' text).mapM Clause.read) =
        ((Text.pieces ',' text).filterMap Clause.parseFault?).head? := by
    rw [errorOf?_mapM, List.head?_filterMap]
    exact congrArg (List.findSome? · _) (funext Clause.errorOf?_read)
  unfold compile faults
  rw [Clause.readAll_of_not_blank visible, errorOf?_bind, errorOf?_mapError, List.head?_append,
    List.head?_map, ← firstParseFault]
  cases read : (Text.pieces ',' text).mapM Clause.read with
  | error error => rfl
  | ok clauses =>
    have compiled : ((Except.ok clauses).mapError CompileError.parse).toOption = some clauses := rfl
    rw [filterMap_toOption_of_mapM read, compiled, errorOf?_ok, Option.map_none, Option.none_or,
      Option.none_or, Option.bind_some, errorOf?_bind_pure, errorOf?_mapM, List.head?_flatMap]
    have each := funext (Clause.errorOf?_compile catalog options root)
    exact congrArg (List.findSome? · clauses) each

end Schema

end Filter

end TextQuery
