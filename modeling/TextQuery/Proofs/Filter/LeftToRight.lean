import TextQuery.Proofs.Clause.Pieces
import TextQuery.Proofs.Filter.Conditions
import TextQuery.Samples.Catalog

/-!
What a filter means. Its alternatives, those of all clauses in the order of the text, are combined
from left to right without precedence: an alternative that begins a later clause restricts all that
comes before it, and any other alternative rescues what was lost before it. Main statement: an item
passes exactly if some alternative of the second sort holds of it, and after it every alternative
of the first sort does (`Filter.holds_iff_orPoint`).
-/

namespace TextQuery

variable {ι : Type}

/-- A condition of a filter, and where in the text it stands. -/
structure Alternative (ι : Type) where
  condition : Condition ι
  /-- The position of the clause in the text. -/
  clause : Nat
  /-- The position of the alternative in its clause. -/
  position : Nat

namespace Alternative

/-- The alternative at `index` is joined by *or*: it is the first of all, or not the first of its
clause. -/
def IsOrPoint (index : Nat) (alternative : Alternative ι) : Prop :=
  index = 0 ∨ 0 < alternative.position

/-- The alternative is joined by *and*: it is the first of a clause that is not the first. -/
def IsAndPoint (alternative : Alternative ι) : Prop :=
  0 < alternative.clause ∧ alternative.position = 0

/-- Whether the alternative is the first of its clause. -/
def begins (alternative : Alternative ι) : Bool :=
  alternative.position = 0

/-- The alternatives of one clause. -/
def ofClause (clause : Nat) (conditions : List (Condition ι)) : List (Alternative ι) :=
  conditions.zipIdx.map fun (condition, position) => ⟨condition, clause, position⟩

/-- The alternatives of all clauses, in the order of the text. -/
def ofClauses (clauses : List (List (Condition ι))) : List (Alternative ι) :=
  clauses.zipIdx.flatMap fun (conditions, clause) => ofClause clause conditions

/-- Adds an alternative to what came before. -/
def join (before : Option (Expression ι)) (alternative : Alternative ι) : Option (Expression ι) :=
  some (Expression.extend alternative.begins before alternative.condition)

/-! ## Positions -/

theorem getElem?_ofClause (clause : Nat) (conditions : List (Condition ι)) (index : Nat) :
    (ofClause clause conditions)[index]? = conditions[index]?.map (⟨·, clause, index⟩) := by
  unfold ofClause
  rw [List.getElem?_map, List.getElem?_zipIdx, Option.map_map, Nat.zero_add]
  rfl

/-- Among all alternatives, only the first of all begins the first clause. -/
theorem clause_pos_of_begins {clauses : List (List (Condition ι))} {index : Nat}
    {alternative : Alternative ι} (later : 0 < index)
    (standing : (ofClauses clauses)[index]? = some alternative)
    (begins : alternative.position = 0) : 0 < alternative.clause := by
  cases clauses with
  | nil => cases standing
  | cons conditions clauses =>
    unfold ofClauses at standing
    rw [List.zipIdx_cons, List.flatMap_cons, List.getElem?_append] at standing
    by_cases inFirst : index < (ofClause 0 conditions).length
    · -- in the first clause an alternative stands where its position says
      rw [if_pos inFirst, getElem?_ofClause] at standing
      obtain ⟨condition, -, rfl⟩ := Option.map_eq_some_iff.1 standing
      exact absurd begins (Nat.ne_of_gt later)
    · rw [if_neg inFirst] at standing
      obtain ⟨⟨conditions', clause⟩, pairMember, member⟩ :=
        List.mem_flatMap.1 (List.mem_of_getElem? standing)
      have clausePos := (List.mem_zipIdx pairMember).1
      obtain ⟨position, standing⟩ := List.mem_iff_getElem?.1 member
      rw [getElem?_ofClause] at standing
      obtain ⟨condition, -, rfl⟩ := Option.map_eq_some_iff.1 standing
      exact clausePos

/-! ## One fold over all alternatives -/

theorem foldl_join_later (all : Expression ι) (clause position : Nat)
    (more : List (Condition ι)) :
    ((more.zipIdx (position + 1)).map fun (condition, position) =>
        (⟨condition, clause, position⟩ : Alternative ι)).foldl join (some all) =
      more.foldl (fun all next => some (Expression.extend false all next)) (some all) := by
  induction more generalizing all position with
  | nil => rfl
  | cons next more ih => exact ih (Expression.extend false (some all) next) (position + 1)

theorem extendClause_eq_foldl (before : Option (Expression ι)) (clause : Nat)
    (conditions : List (Condition ι)) :
    Expression.extendClause before conditions = (ofClause clause conditions).foldl join before := by
  cases conditions with
  | nil => rfl
  | cons condition more =>
    exact (foldl_join_later (Expression.extend true before condition) clause 0 more).symm

theorem ofClauses_eq_foldl (clauses : List (List (Condition ι))) :
    Expression.ofClauses clauses = (ofClauses clauses).foldl join none := by
  have folded : ∀ (before : Option (Expression ι)) (clauses : List (List (Condition ι)))
      (clause : Nat), clauses.foldl Expression.extendClause before =
        ((clauses.zipIdx clause).flatMap fun (conditions, clause) =>
          ofClause clause conditions).foldl join before := by
    intro before clauses clause
    induction clauses generalizing before clause with
    | nil => rfl
    | cons conditions clauses ih =>
      rw [List.foldl_cons, ih _ (clause + 1), List.zipIdx_cons, List.flatMap_cons,
        List.foldl_append, extendClause_eq_foldl before clause conditions]
  exact folded none clauses 0

/-! ## The value of the fold -/

/-- Every alternative after `index` that begins a clause holds of the item. -/
def LaterHold (item : View) (alternatives : List (Alternative ι)) (index : Nat) : Prop :=
  ∀ (k : Nat) (later : Alternative ι), index < k → alternatives[k]? = some later →
    later.begins = true → later.condition.evaluate item = true

theorem laterHold_cons_succ {item : View} {first : Alternative ι}
    {alternatives : List (Alternative ι)} {index : Nat} :
    LaterHold item (first :: alternatives) (index + 1) ↔ LaterHold item alternatives index := by
  refine ⟨?_, ?_⟩
  · intro hold k later after standing
    exact hold (k + 1) later (Nat.succ_lt_succ after) standing
  · intro hold k later after standing
    cases k with
    | zero => cases after
    | succ k => exact hold k later (Nat.lt_of_succ_lt_succ after) standing

theorem laterHold_cons_zero {item : View} {first : Alternative ι}
    {alternatives : List (Alternative ι)} :
    LaterHold item (first :: alternatives) 0 ↔
      ∀ later ∈ alternatives, later.begins = true → later.condition.evaluate item = true := by
  refine ⟨?_, ?_⟩
  · intro hold later member
    obtain ⟨k, standing⟩ := List.mem_iff_getElem?.1 member
    exact hold (k + 1) later (Nat.succ_pos k) standing
  · intro hold k later after standing
    cases k with
    | zero => cases after
    | succ k => exact hold later (List.mem_of_getElem? standing)

/-- Some alternative that does not begin a clause holds, and after it all that begin one. -/
def Rescues (item : View) (alternatives : List (Alternative ι)) : Prop :=
  ∃ index alternative, alternatives[index]? = some alternative ∧ alternative.begins = false ∧
    alternative.condition.evaluate item = true ∧ LaterHold item alternatives index

theorem rescues_cons {item : View} {first : Alternative ι} {alternatives : List (Alternative ι)} :
    Rescues item (first :: alternatives) ↔
      (first.begins = false ∧ first.condition.evaluate item = true ∧
        LaterHold item (first :: alternatives) 0) ∨ Rescues item alternatives := by
  refine ⟨?_, ?_⟩
  · intro rescue
    obtain ⟨index, alternative, standing, joined, holds, hold⟩ := rescue
    cases index with
    | zero =>
      cases standing
      exact Or.inl ⟨joined, holds, hold⟩
    | succ index =>
      exact Or.inr ⟨index, alternative, standing, joined, holds, laterHold_cons_succ.1 hold⟩
  · intro rescue
    rcases rescue with ⟨joined, holds, hold⟩ | ⟨index, alternative, standing, joined, holds, hold⟩
    · exact ⟨0, first, rfl, joined, holds, hold⟩
    · exact ⟨index + 1, alternative, standing, joined, holds, laterHold_cons_succ.2 hold⟩

/-- What came before is kept by those that begin a clause, or an alternative rescues. -/
theorem holds_foldl (item : View) (before : Expression ι) (alternatives : List (Alternative ι)) :
    Filter.holds ⟨alternatives.foldl join (some before)⟩ item = true ↔
      (before.evaluate item = true ∧
        ∀ later ∈ alternatives, later.begins = true → later.condition.evaluate item = true) ∨
      Rescues item alternatives := by
  induction alternatives generalizing before with
  | nil =>
    refine ⟨?_, ?_⟩
    · intro holds
      exact Or.inl ⟨holds, List.forall_mem_nil _⟩
    · intro either
      rcases either with ⟨holds, -⟩ | ⟨index, alternative, standing, -⟩
      · exact holds
      · cases standing
  | cons first alternatives ih =>
    rw [List.foldl_cons, join, ih, rescues_cons, laterHold_cons_zero, List.forall_mem_cons]
    cases joined : first.begins with
    | true =>
      simp [Expression.extend, Expression.evaluate, and_assoc]
    | false =>
      simp [Expression.extend, Expression.evaluate, or_and_right, or_assoc]

/-- An item passes if an or-point holds of it, and after that point all and-points. -/
theorem holds_ofClauses_iff {clauses : List (List (Condition ι))}
    (nonempty : ofClauses clauses ≠ []) (item : View) :
    Filter.holds ⟨Expression.ofClauses clauses⟩ item = true ↔
      ∃ (j : Nat) (alternative : Alternative ι), (ofClauses clauses)[j]? = some alternative ∧
        alternative.IsOrPoint j ∧ alternative.condition.evaluate item = true ∧
        ∀ (k : Nat) (later : Alternative ι), j < k → (ofClauses clauses)[k]? = some later →
          later.IsAndPoint → later.condition.evaluate item = true := by
  have andPoint : ∀ {j : Nat}, LaterHold item (ofClauses clauses) j ↔
      ∀ (k : Nat) (later : Alternative ι), j < k → (ofClauses clauses)[k]? = some later →
        later.IsAndPoint → later.condition.evaluate item = true := by
    intro j
    refine ⟨?_, ?_⟩
    · intro hold k later after standing joined
      exact hold k later after standing (decide_eq_true joined.2)
    · intro hold k later after standing begins
      have position := of_decide_eq_true begins
      have clause := clause_pos_of_begins (Nat.zero_lt_of_lt after) standing position
      exact hold k later after standing ⟨clause, position⟩
  simp only [← andPoint]
  rw [ofClauses_eq_foldl]
  generalize ofClauses clauses = alternatives at nonempty
  cases alternatives with
  | nil => exact absurd rfl nonempty
  | cons first alternatives =>
    rw [List.foldl_cons, join, Expression.extend, holds_foldl, ← laterHold_cons_zero]
    refine ⟨?_, ?_⟩
    · intro either
      rcases either with ⟨holds, hold⟩ | ⟨index, alternative, standing, joined, holds, hold⟩
      · exact ⟨0, first, rfl, Or.inl rfl, holds, hold⟩
      · exact ⟨index + 1, alternative, standing,
          Or.inr (Nat.pos_of_ne_zero (of_decide_eq_false joined)), holds,
          laterHold_cons_succ.2 hold⟩
    · intro orPoint
      obtain ⟨index, alternative, standing, joined, holds, hold⟩ := orPoint
      cases index with
      | zero =>
        cases standing
        exact Or.inl ⟨holds, hold⟩
      | succ index =>
        have position : 0 < alternative.position := joined.resolve_left (Nat.succ_ne_zero index)
        exact Or.inr ⟨index, alternative, standing, decide_eq_false (Nat.ne_of_gt position), holds,
          laterHold_cons_succ.1 hold⟩

theorem ofClauses_ne_nil {clauses : List (List (Condition ι))} (nonempty : clauses ≠ [])
    (each : ∀ conditions ∈ clauses, conditions ≠ []) : ofClauses clauses ≠ [] := by
  cases clauses with
  | nil => exact absurd rfl nonempty
  | cons conditions clauses =>
    cases conditions with
    | nil => exact absurd rfl (each [] List.mem_cons_self)
    | cons condition more => exact List.cons_ne_nil _ _

end Alternative

/-- A blank text keeps every item. An item passes any other filter exactly if there is an or-point
among the alternatives that holds of it, after which every and-point holds of it too. -/
theorem Filter.holds_iff_orPoint (catalog : Catalog ι) (options : CompileOptions)
    (root : Schema ι) (text : Text) :
    (text.isBlank = true →
      compile catalog options root text = .ok all ∧ ∀ item, (all : Filter ι).holds item = true) ∧
    (text.isBlank = false → ∀ filter, compile catalog options root text = .ok filter →
      ∃ clauses conditions, Clause.readAll text = .ok clauses ∧
        clauses.mapM (Clause.compile catalog options root) = .ok conditions ∧
        ∀ item, filter.holds item = true ↔
          ∃ (j : Nat) (alternative : Alternative ι),
            (Alternative.ofClauses conditions)[j]? = some alternative ∧
            alternative.IsOrPoint j ∧ alternative.condition.evaluate item = true ∧
            ∀ (k : Nat) (later : Alternative ι), j < k →
              (Alternative.ofClauses conditions)[k]? = some later → later.IsAndPoint →
                later.condition.evaluate item = true) := by
  refine ⟨?_, ?_⟩
  · intro blank
    refine ⟨?_, fun item => rfl⟩
    exact compile_eq_ok_iff.2 ⟨[], [], Clause.readAll_of_blank blank, rfl, rfl⟩
  · intro visible filter compiled
    obtain ⟨clauses, conditions, read, each, rfl⟩ := compile_eq_ok_iff.1 compiled
    obtain ⟨clausesNonempty, literals⟩ := Clause.nonempty_of_readAll visible read
    refine ⟨clauses, conditions, read, each, Alternative.holds_ofClauses_iff ?_⟩
    apply Alternative.ofClauses_ne_nil
    · exact ne_nil_of_mapM each clausesNonempty
    · intro group member
      obtain ⟨clause, clauseMember, compiled⟩ := exists_of_mem_mapM each member
      exact Clause.ne_nil_of_compile compiled (literals clause clauseMember)

/-- Fred, who is not 27, passes by the last alternative of `age=27,name%lu|fr`. -/
theorem Filter.holds_iff_orPoint_rescued :
    Text.isBlank "age=27,name%lu|fr".toList = false ∧
    ∃ filter conditions,
      compile Sample.catalog {} (Sample.catalog .user) "age=27,name%lu|fr".toList = .ok filter ∧
      filter.holds (Sample.view .user (Sample.namedUser "Fred" 33)) = true ∧
      ∃ (j : Nat) (alternative : Alternative Sample),
        (Alternative.ofClauses conditions)[j]? = some alternative ∧ alternative.IsOrPoint j ∧
        alternative.condition.evaluate (Sample.view .user (Sample.namedUser "Fred" 33)) = true ∧
        ∀ (k : Nat) (later : Alternative Sample), j < k →
          (Alternative.ofClauses conditions)[k]? = some later → later.IsAndPoint →
            later.condition.evaluate (Sample.view .user (Sample.namedUser "Fred" 33)) = true := by
  have visible : Text.isBlank "age=27,name%lu|fr".toList = false := by decide
  have kept : (compile Sample.catalog {} (Sample.catalog .user)
      "age=27,name%lu|fr".toList).toOption.any
        (·.holds (Sample.view .user (Sample.namedUser "Fred" 33))) = true := by
    decide +kernel
  obtain ⟨filter, compiled, holds⟩ := exists_of_any_toOption kept
  obtain ⟨clauses, conditions, -, -, passes⟩ :=
    (Filter.holds_iff_orPoint Sample.catalog {} (Sample.catalog .user) _).2 visible filter compiled
  exact ⟨visible, filter, conditions, compiled, holds, (passes _).1 holds⟩

end TextQuery
