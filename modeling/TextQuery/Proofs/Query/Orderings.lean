import TextQuery.Order
import TextQuery.Proofs.Clause.Paths
import TextQuery.Proofs.Path.Resolution

/-!
Orderings read and compiled. A path alone is read as that path (`OrderBy.read_path_text`), and a
path with `=` and the name of a direction after it as that path and that direction
(`OrderBy.read_text`). Whatever is read, its path is what stands in front of the first `=`
(`OrderBy.steps_of_read`). An ordering compiles to its resolved path and to its direction, or to the
default one if it gives none (`Order.compile_eq_some_iff`).
-/

namespace TextQuery

theorem Direction.read?_name (direction : Direction) : read? direction.name = some direction := by
  cases direction <;> decide

theorem Direction.readGiven_name (direction : Direction) :
    readGiven direction.name = .ok direction := by
  unfold readGiven
  rw [read?_name]

namespace Grammar

theorem textsOf_direction (segments : List Text) (rest : List Token) :
    Token.textsOf .direction (pathTokens segments ++ rest) = Token.textsOf .direction rest := by
  have dropped : (pathTokens segments).filter (·.rule = .direction) = [] := by
    refine List.filter_eq_nil_iff.2 fun token member => ?_
    rcases List.mem_cons.1 member with rfl | member
    · exact of_decide_eq_false rfl
    · obtain ⟨segment, -, rfl⟩ := List.mem_map.1 member
      exact of_decide_eq_false rfl
  unfold Token.textsOf
  rw [List.filter_append, dropped, List.nil_append]

section Path

variable {path : Text} (isPath : IsPath path)

include isPath

/-- A path alone is an ordering without a direction. -/
theorem tokens?_order_path :
    Rule.order.tokens? path = some (pathTokens (Text.pieces '.' path) ++ [.finish]) := by
  have whole : path? path = some (Text.pieces '.' path, []) := path?_eq_whole_iff.2 ⟨rfl, isPath⟩
  unfold Rule.tokens?
  simp only [whole]

/-- What follows the first `=` after a path is its direction. -/
theorem tokens?_order_directed (direction : Text) :
    Rule.order.tokens? (path ++ '=' :: direction) =
      some (pathTokens (Text.pieces '.' path) ++ [⟨.direction, direction⟩, .finish]) := by
  have whole : path? path = some (Text.pieces '.' path, []) := path?_eq_whole_iff.2 ⟨rfl, isPath⟩
  have front : path? (path ++ '=' :: direction) = some (Text.pieces '.' path, '=' :: direction) :=
    path?_append whole (by rintro c ⟨⟩; rfl)
  unfold Rule.tokens?
  simp only [front]

end Path

/-- The tokens of an ordering are those of a path that is the whole text, or of one that the first
`=` follows, and then what follows that is its direction. -/
theorem tokens?_order_cases {text : Text} {tokens : List Token}
    (found : Rule.order.tokens? text = some tokens) :
    ∃ rest, path? text = some (Token.textsOf .segment tokens, rest) ∧
      ((rest = [] ∧ Token.textsOf .direction tokens = []) ∨
        ∃ direction, rest = '=' :: direction ∧ Token.textsOf .direction tokens = [direction]) := by
  unfold Rule.tokens? at found
  dsimp only at found
  split at found
  · rename_i segments taken
    cases found
    rw [PathExpr.textsOf_segment (by simp [Token.finish]), textsOf_direction]
    exact ⟨[], taken, Or.inl ⟨rfl, rfl⟩⟩
  · rename_i segments direction taken
    cases found
    rw [PathExpr.textsOf_segment (by simp [Token.finish]), textsOf_direction]
    exact ⟨'=' :: direction, taken, Or.inr ⟨direction, rfl, rfl⟩⟩
  · cases found

/-- The segments of an ordering are the parts between dots of what stands in front of the first
`=`. -/
theorem pieces_takeWhile_of_path? {text rest : Text} {segments : List Text}
    (taken : path? text = some (segments, rest)) (stop : ∀ c ∈ rest.head?, c = '=') :
    Text.pieces '.' (text.takeWhile (· ≠ '=')) = segments := by
  obtain ⟨rfl, nonempty, chars⟩ := eq_join_of_path? taken
  have front : ∀ c ∈ Text.join ['.'] segments, decide (c ≠ '=') = true := by
    intro c member
    rcases Text.mem_of_mem_join member with rfl | ⟨segment, isSegment, within⟩
    · rfl
    · have pathChar := (isSegmentChar_iff.1 (chars segment isSegment c within)).2
      exact decide_eq_true (isPathChar_iff.1 pathChar).1
  have ends : rest.takeWhile (· ≠ '=') = [] := by
    cases rest with
    | nil => rfl
    | cons c more => simp [stop c rfl]
  rw [List.takeWhile_append_of_pos front, ends, List.append_nil]
  refine Text.pieces_join nonempty fun segment isSegment dot => ?_
  exact absurd (chars segment isSegment '.' dot) (by decide)

end Grammar

namespace OrderBy

/-- What an ordering can be refused for: it is no path, or what follows the `=` is no direction. -/
theorem read_error_cases {text : Text} {error : ParseError} (failed : read text = .error error) :
    error = .malformedPath text.trim ∨
      ∃ direction, error = .invalidDirection direction ∧ direction <:+: text := by
  unfold read at failed
  split at failed
  · cases failed
  · split at failed
    · cases failed
      exact Or.inl rfl
    · rename_i tokens found
      split at failed
      · cases failed
        exact Or.inl rfl
      · obtain ⟨rest, taken, ends⟩ := Grammar.tokens?_order_cases found
        rcases ends with ⟨-, none⟩ | ⟨direction, rfl, given⟩
        · rw [none] at failed
          cases failed
        · rw [given] at failed
          refine Or.inr ⟨direction, ?_, ?_⟩
          · rw [List.mapM_cons, List.mapM_nil] at failed
            unfold Direction.readGiven at failed
            cases known : Direction.read? direction with
            | none =>
              rw [known] at failed
              cases failed
              rfl
            | some direction =>
              rw [known] at failed
              cases failed
          · rw [(Grammar.eq_join_of_path? taken).1, List.append_cons]
            exact (List.suffix_append _ _).isInfix

/-- The steps of an ordering are the trimmed parts between dots of what stands in front of the first
`=`, and none of them is empty. -/
theorem steps_of_read {text : Text} {order : OrderBy} (given : read text = .ok (some order)) :
    [] ∉ order.path.steps ∧
      order.path.steps = (Text.pieces '.' (text.takeWhile (· ≠ '='))).map Text.trim := by
  unfold read at given
  split at given
  · cases given
  · split at given
    · cases given
    · rename_i tokens found
      split at given
      · cases given
      · rename_i path built
        obtain ⟨directions, -, same⟩ := bind_eq_ok_iff.1 given
        cases same
        obtain ⟨rest, taken, ends⟩ := Grammar.tokens?_order_cases found
        have stop : ∀ c ∈ rest.head?, c = '=' := by
          rcases ends with ⟨rfl, -⟩ | ⟨direction, rfl, -⟩
          · exact nofun
          · exact fun c first => (Option.some.inj first).symm
        rw [Grammar.pieces_takeWhile_of_path? taken stop]
        obtain ⟨visible, steps⟩ := PathExpr.ofSegments?_eq_some_iff.1 built
        exact ⟨steps ▸ visible, steps⟩

/-- Once the segments of an ordering make a path, only its direction is left to be read. -/
theorem read_eq_of_tokens? {text : Text} {segments : List Text} {path : PathExpr}
    {rest : List Token} (visible : text.isBlank = false)
    (tokens : Rule.order.tokens? text = some (Grammar.pathTokens segments ++ rest))
    (noSegment : ∀ token ∈ rest, token.rule ≠ .segment)
    (built : PathExpr.ofSegments? segments = some path) :
    read text = ((Token.textsOf .direction rest).mapM Direction.readGiven).map
      fun directions => some ⟨path, directions.head?⟩ := by
  unfold read
  rw [if_neg (by rw [visible]; exact Bool.false_ne_true), tokens]
  dsimp only
  rw [PathExpr.textsOf_segment noSegment, built]
  dsimp only
  rw [Grammar.textsOf_direction]
  cases (Token.textsOf .direction rest).mapM Direction.readGiven <;> rfl

theorem read_of_tokens? {text : Text} {path : PathExpr} {rest : List Token}
    {directions : List Direction} (visible : text.isBlank = false)
    (steps : ∀ step ∈ path.steps, Grammar.IsStep step)
    (tokens : Rule.order.tokens? text = some (Grammar.pathTokens path.steps ++ rest))
    (noSegment : ∀ token ∈ rest, token.rule ≠ .segment)
    (given : (Token.textsOf .direction rest).mapM Direction.readGiven = .ok directions) :
    read text = .ok (some ⟨path, directions.head?⟩) := by
  have built : PathExpr.ofSegments? path.steps = some path := by
    refine PathExpr.ofSegments?_eq_some_iff.2 ?_
    rw [PathExpr.map_trim_steps steps]
    exact ⟨fun empty => (steps [] empty).1 rfl, rfl⟩
  rw [read_eq_of_tokens? visible tokens noSegment built, given]
  rfl

variable {path : PathExpr} (steps : ∀ step ∈ path.steps, Grammar.IsStep step)
  (nonempty : path.steps ≠ [])

include steps nonempty

/-- A path comes back from its text, without a direction. -/
theorem read_path_text : read path.text = .ok (some ⟨path, none⟩) := by
  have tokens := Grammar.tokens?_order_path (PathExpr.isPath_text steps nonempty)
  rw [PathExpr.pieces_text steps nonempty] at tokens
  exact read_of_tokens? (PathExpr.isBlank_text steps nonempty) steps tokens (by simp [Token.finish])
    rfl

/-- A path and a direction come back from their text. -/
theorem read_text (direction : Direction) :
    read (path.text ++ ['='] ++ direction.name) = .ok (some ⟨path, some direction⟩) := by
  have visible : (path.text ++ '=' :: direction.name).isBlank = false :=
    List.all_eq_false.2 ⟨'=', by simp, by decide⟩
  have tokens := Grammar.tokens?_order_directed (PathExpr.isPath_text steps nonempty) direction.name
  rw [PathExpr.pieces_text steps nonempty] at tokens
  have given : [direction.name].mapM Direction.readGiven = .ok [direction] :=
    mapM_eq_ok_iff.2 (.cons direction.readGiven_name .nil)
  rw [List.append_assoc]
  exact read_of_tokens? visible steps tokens (by simp [Token.finish]) given

end OrderBy

namespace Order

variable {ι : Type} {catalog : Catalog ι} {options : CompileOptions} {root : Schema ι}

theorem compile_eq_some_iff {text : Text} {order : Order ι} :
    compile catalog options root text = .ok (some order) ↔
      ∃ given, OrderBy.read text = .ok (some given) ∧
        PropertyPath.resolveSingle catalog root given.path = .ok order.path ∧
        order.direction = given.direction.getD options.defaultDirection := by
  unfold compile
  rw [bind_eq_ok_iff]
  simp only [mapError_eq_ok_iff]
  refine ⟨?_, ?_⟩
  · rintro ⟨given, read, compiled⟩
    cases given with
    | none => cases compiled
    | some given =>
      obtain ⟨path, single, same⟩ := bind_eq_ok_iff.1 compiled
      cases same
      exact ⟨given, read, single, rfl⟩
  · rintro ⟨given, read, single, direction⟩
    refine ⟨some given, read, bind_eq_ok_iff.2 ⟨order.path, single, ?_⟩⟩
    rw [← direction]
    rfl

end Order

end TextQuery
