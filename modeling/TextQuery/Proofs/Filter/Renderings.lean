import TextQuery.Proofs.Literal.Renderings
import TextQuery.Proofs.Query.CanonicalTexts

/-!
Filters told from their renderings. A path is rendered by names only, and from the root on each name
leads back to its field and to the type after it. So the literal of a condition is read for a known
type, and every condition tells where its rendering ends. Combinations stand in parentheses, with
their word between spaces. Main statement: filters that compile for one schema with legible names,
under whatever options, and have one rendering are one filter (`Filter.eq_of_display_eq`).
-/

namespace TextQuery

variable {ι : Type}

/-! ## Legible names of all reachable schemas -/

namespace FieldType

/-- The enumeration of the members in a type, under all of its layers. -/
def enumeration? : FieldType ι → Option EnumSchema
  | enum enumeration => some enumeration
  | nullable inner => inner.enumeration?
  | collection element => element.enumeration?
  | scalar _ => none
  | object _ => none

theorem enumeration?_underlying (type : FieldType ι) :
    type.underlying.enumeration? = type.enumeration? := by
  induction type with
  | nullable inner ih => exact ih
  | scalar type => rfl
  | enum enumeration => rfl
  | object schema => rfl
  | collection element => rfl

theorem enumeration?_of_element? {type element : FieldType ι}
    (collection : type.element? = some element) : type.enumeration? = element.enumeration? := by
  rw [← enumeration?_underlying, element?_eq_some_iff.1 collection]
  rfl

end FieldType

namespace Schema

variable {catalog : Catalog ι}

/-- In the schema and in all that it reaches, the names of fields and members are legible. -/
def Legible (catalog : Catalog ι) (schema : Schema ι) : Prop :=
  ∀ next, Reaches catalog schema next → ∀ field ∈ next.fields, field.name.IsLegible ∧
    ∀ enumeration ∈ field.type.enumeration?, enumeration.Legible

theorem legible_of_catalog (legible : ∀ type, ∀ field ∈ (catalog type).fields,
    field.name.IsLegible ∧ ∀ enumeration ∈ field.type.enumeration?, enumeration.Legible)
    (type : ι) : (catalog type).Legible catalog := by
  intro next reaches
  obtain ⟨type', rfl⟩ := exists_of_reaches reaches
  exact legible type'

end Schema

/-! ## Paths -/

namespace PropertyPath

variable {catalog : Catalog ι} {root : Schema ι}

section Resolves

variable {steps : List Text} {segments : List (Segment ι)} {hop : Option Nat}
  {terminal : FieldType ι} (resolves : Resolves catalog root steps segments hop terminal)
  (legible : root.Legible catalog)

include resolves

/-- The members at the end of a path are those of its last segment. -/
theorem Resolves.exists_enumeration? :
    ∃ segment ∈ segments, segment.type.enumeration? = terminal.enumeration? := by
  induction resolves with
  | last found single => exact ⟨_, List.mem_singleton_self _, rfl⟩
  | lastAcross found collection flat =>
    exact ⟨_, List.mem_singleton_self _, FieldType.enumeration?_of_element? collection⟩
  | through found object resolves ih =>
    obtain ⟨segment, member, same⟩ := ih
    exact ⟨segment, List.mem_cons_of_mem _ member, same⟩
  | across found collection object resolves ih =>
    obtain ⟨segment, member, same⟩ := ih
    exact ⟨segment, List.mem_cons_of_mem _ member, same⟩

include legible

theorem Resolves.isLegible : ∀ segment ∈ segments, segment.name.IsLegible := by
  intro segment member
  obtain ⟨next, reaches, field, isField, named, -⟩ := resolves.exists_field segment member
  rw [named]
  exact (legible next reaches field isField).1

theorem Resolves.legible_terminal {enumeration : EnumSchema}
    (members : terminal.underlying = .enum enumeration) : enumeration.Legible := by
  obtain ⟨segment, member, same⟩ := resolves.exists_enumeration?
  obtain ⟨next, reaches, field, isField, -, typed⟩ := resolves.exists_field segment member
  refine (legible next reaches field isField).2 enumeration ?_
  rw [← typed, same, ← FieldType.enumeration?_underlying, members]
  rfl

end Resolves

section Texts

variable {expr expr' : PathExpr} {path path' : PropertyPath ι}
  (resolved : resolve catalog root expr = .ok path) (legible : root.Legible catalog)

include resolved legible

theorem isLegible_written : ∀ name ∈ path.written.steps, name.IsLegible :=
  List.forall_mem_map.2 ((resolve_eq_ok_iff.1 resolved).2.isLegible legible)

theorem exists_name_of_mem_text {c : Char} (member : c ∈ path.text) :
    c = '.' ∨ ∃ name : Text, name.IsLegible ∧ c ∈ name := by
  rcases Text.mem_of_mem_join member with dot | ⟨name, isName, within⟩
  · exact Or.inl dot
  · exact Or.inr ⟨name, isLegible_written resolved legible name isName, within⟩

theorem isUnbroken_text : path.text.IsUnbroken := by
  intro c member
  rcases exists_name_of_mem_text resolved legible member with rfl | ⟨name, legibleName, within⟩
  · decide
  · exact legibleName.isUnbroken c within

theorem parenthesis_notMem_text : '(' ∉ path.text := by
  intro member
  rcases exists_name_of_mem_text resolved legible member with dot | ⟨name, legibleName, within⟩
  · exact absurd dot (by decide)
  · exact (legibleName '(' within).2.2.1 rfl

theorem pieces_text : Text.pieces '.' path.text = path.written.steps :=
  Text.pieces_join (written_ne_nil resolved) fun name isName member =>
    (isLegible_written resolved legible name isName '.' member).2.1 rfl

theorem resolve_written_of_legible : resolve catalog root path.written = .ok path := by
  refine resolve_written_of_trimmed resolved fun segment member => ?_
  have legibleName := (resolve_eq_ok_iff.1 resolved).2.isLegible legible segment member
  exact Text.trim_of_visible fun c within => (legibleName c within).1

/-- Paths from one root are told from their texts. -/
theorem eq_of_text_eq (resolved' : resolve catalog root expr' = .ok path')
    (same : path.text = path'.text) : path = path' := by
  have names : path.written = path'.written := by
    rw [PathExpr.mk.injEq, ← pieces_text resolved legible, same, pieces_text resolved' legible]
  have own := resolve_written_of_legible resolved legible
  rw [names, resolve_written_of_legible resolved' legible] at own
  exact (Except.ok.inj own).symm

end Texts

end PropertyPath

/-! ## Conditions -/

namespace Operator

theorem isUnbroken_marker (operator : Operator) : operator.marker.IsUnbroken := by
  cases operator <;> decide

theorem marker_inj {left right : Operator} (same : left.marker = right.marker) : left = right := by
  cases left <;> cases right <;> first | rfl | cases same

end Operator

namespace Condition

variable {catalog : Catalog ι} {root : Schema ι}

/-- The condition is compiled for the schema, and compares with no float. -/
def IsTold (catalog : Catalog ι) (root : Schema ι) (condition : Condition ι) : Prop :=
  (∃ options steps operator text,
    Compiled catalog options root steps operator text condition) ∧
  ∀ x, condition.literal.value? ≠ some (.float x)

variable {left right : Condition ι} (legible : root.Legible catalog)
  (told : left.IsTold catalog root)

theorem display_append (condition : Condition ι) (rest : Text) :
    condition.display ++ rest = condition.path.text ++ ' ' ::
      (condition.operator.marker ++ ' ' :: (condition.literal.display ++ rest)) := by
  simp [display]

include legible told

theorem display_append_inj (told' : right.IsTold catalog root) {rest rest' : Text}
    (closes : Text.Closes rest) (closes' : Text.Closes rest')
    (same : left.display ++ rest = right.display ++ rest') : left = right ∧ rest = rest' := by
  obtain ⟨⟨options, steps, operator, text, compiled⟩, noFloat⟩ := told
  obtain ⟨⟨options', steps', operator', text', compiled'⟩, noFloat'⟩ := told'
  rw [display_append, display_append] at same
  obtain ⟨paths, afterPath⟩ := Text.append_inj_of_closes
    (PropertyPath.isUnbroken_text compiled.resolved legible)
    (PropertyPath.isUnbroken_text compiled'.resolved legible)
    (Text.closes_space _) (Text.closes_space _) same
  obtain ⟨operators, afterMarker⟩ := Text.append_inj_of_closes left.operator.isUnbroken_marker
    right.operator.isUnbroken_marker (Text.closes_space _) (Text.closes_space _)
    (List.cons.inj afterPath).2
  -- the path and the operator are the same, so both literals were read for one type
  obtain ⟨path, operator, literal⟩ := left
  obtain ⟨path', operator', literal'⟩ := right
  obtain rfl := PropertyPath.eq_of_text_eq compiled.resolved legible compiled'.resolved paths
  obtain rfl := Operator.marker_inj operators
  obtain rfl := compiled.operator_eq
  obtain rfl := compiled'.operator_eq
  obtain ⟨rfl, rests⟩ := Literal.display_append_inj compiled.literal_eq compiled'.literal_eq
    (fun enumeration => compiled.resolves.legible_terminal legible) noFloat noFloat' closes closes'
    (List.cons.inj afterMarker).2
  exact ⟨rfl, rests⟩

/-- A condition is not taken for a combination. -/
theorem display_append_ne_cons (rest more : Text) : left.display ++ rest ≠ '(' :: more := by
  obtain ⟨⟨options, steps, operator, text, compiled⟩, -⟩ := told
  intro same
  rw [display_append] at same
  cases shown : left.path.text with
  | nil =>
    rw [shown] at same
    exact absurd (List.cons.inj same).1 (by decide)
  | cons c others =>
    rw [shown] at same
    obtain rfl := (List.cons.inj same).1
    have member : '(' ∈ left.path.text := shown ▸ List.mem_cons_self
    exact PropertyPath.parenthesis_notMem_text compiled.resolved legible member

end Condition

/-! ## Expressions -/

namespace Expression

variable {catalog : Catalog ι} {root : Schema ι}

/-- The expression combines two others by a word. -/
def Combines (expression : Expression ι) (word : Text) (left right : Expression ι) : Prop :=
  word = "AND".toList ∧ expression = and left right ∨
    word = "OR".toList ∧ expression = or left right

/-- How a combination goes on after its opening parenthesis, in front of `rest`. -/
def combined (word : Text) (left right : Expression ι) (rest : Text) : Text :=
  left.display ++ ' ' :: (word ++ ' ' :: (right.display ++ ')' :: rest))

/-- All conditions of the expression are told from their renderings. -/
def IsTold (catalog : Catalog ι) (root : Schema ι) (expression : Expression ι) : Prop :=
  ∀ condition ∈ expression.conditions, condition.IsTold catalog root

/-- The expression tells where its rendering ends, if what follows closes it. -/
def Tells (catalog : Catalog ι) (root : Schema ι) (expression : Expression ι) : Prop :=
  ∀ other : Expression ι, other.IsTold catalog root → ∀ rest rest' : Text, Text.Closes rest →
    Text.Closes rest' → expression.display ++ rest = other.display ++ rest' →
    expression = other ∧ rest = rest'

section Combinations

variable {expression : Expression ι} {word : Text} {left right : Expression ι}
  (combines : expression.Combines word left right)

include combines

theorem Combines.display_append (rest : Text) :
    expression.display ++ rest = '(' :: combined word left right rest := by
  rcases combines with ⟨rfl, rfl⟩ | ⟨rfl, rfl⟩ <;> simp [display, combined]

theorem Combines.isUnbroken : word.IsUnbroken := by
  rcases combines with ⟨rfl, -⟩ | ⟨rfl, -⟩ <;> decide

theorem Combines.isTold (told : expression.IsTold catalog root) :
    left.IsTold catalog root ∧ right.IsTold catalog root := by
  rcases combines with ⟨-, rfl⟩ | ⟨-, rfl⟩ <;> exact List.forall_mem_append.1 told

theorem Combines.unique {other : Expression ι} (combines' : other.Combines word left right) :
    expression = other := by
  rcases combines with ⟨rfl, rfl⟩ | ⟨rfl, rfl⟩
  · rcases combines' with ⟨-, rfl⟩ | ⟨words, -⟩
    · rfl
    · exact absurd words (by decide)
  · rcases combines' with ⟨words, -⟩ | ⟨-, rfl⟩
    · exact absurd words (by decide)
    · rfl

/-- A combination is told if its operands are: a space closes the left one, and the closing
parenthesis the right one. -/
theorem Combines.tells (legible : root.Legible catalog) (tellsLeft : left.Tells catalog root)
    (tellsRight : right.Tells catalog root) : expression.Tells catalog root := by
  intro other told' rest rest' closes closes' same
  rw [combines.display_append] at same
  have combination : ∀ {word' : Text} {left' right' : Expression ι},
      other.Combines word' left' right' → expression = other ∧ rest = rest' := by
    intro word' left' right' combines'
    obtain ⟨toldLeft, toldRight⟩ := combines'.isTold told'
    rw [combines'.display_append] at same
    obtain ⟨rfl, afterLeft⟩ := tellsLeft left' toldLeft _ _ (Text.closes_space _)
      (Text.closes_space _) (List.cons.inj same).2
    obtain ⟨rfl, afterWord⟩ := Text.append_inj_of_closes combines.isUnbroken combines'.isUnbroken
      (Text.closes_space _) (Text.closes_space _) (List.cons.inj afterLeft).2
    obtain ⟨rfl, afterRight⟩ := tellsRight right' toldRight _ _ (Text.closes_parenthesis _)
      (Text.closes_parenthesis _) (List.cons.inj afterWord).2
    exact ⟨combines.unique combines', (List.cons.inj afterRight).2⟩
  cases other with
  | condition c =>
    have told' : c.IsTold catalog root := told' c (List.mem_singleton_self c)
    exact absurd same.symm (Condition.display_append_ne_cons legible told' _ _)
  | and left' right' => exact combination (Or.inl ⟨rfl, rfl⟩)
  | or left' right' => exact combination (Or.inr ⟨rfl, rfl⟩)

end Combinations

theorem tells_condition (legible : root.Legible catalog) {c : Condition ι}
    (told : c.IsTold catalog root) : (condition c).Tells catalog root := by
  intro other told' rest rest' closes closes' same
  have combination : ∀ {word : Text} {left right : Expression ι},
      ¬ other.Combines word left right := by
    intro word left right combines
    rw [combines.display_append] at same
    exact Condition.display_append_ne_cons legible told _ _ same
  cases other with
  | condition d =>
    have told' : d.IsTold catalog root := told' d (List.mem_singleton_self d)
    obtain ⟨rfl, rests⟩ := Condition.display_append_inj legible told told' closes closes' same
    exact ⟨rfl, rests⟩
  | and left right => exact absurd (Or.inl ⟨rfl, rfl⟩) combination
  | or left right => exact absurd (Or.inr ⟨rfl, rfl⟩) combination

/-- Every expression whose conditions are told tells where its rendering ends. -/
theorem tells_of_isTold (legible : root.Legible catalog) {expression : Expression ι}
    (told : expression.IsTold catalog root) : expression.Tells catalog root := by
  -- the other expression and what follows stay arbitrary, so an operand is told amid the rest
  induction expression with
  | condition c => exact tells_condition legible (told c (List.mem_singleton_self c))
  | and left right ihLeft ihRight =>
    have combines : (and left right).Combines "AND".toList left right := Or.inl ⟨rfl, rfl⟩
    obtain ⟨toldLeft, toldRight⟩ := combines.isTold told
    exact combines.tells legible (ihLeft toldLeft) (ihRight toldRight)
  | or left right ihLeft ihRight =>
    have combines : (or left right).Combines "OR".toList left right := Or.inr ⟨rfl, rfl⟩
    obtain ⟨toldLeft, toldRight⟩ := combines.isTold told
    exact combines.tells legible (ihLeft toldLeft) (ihRight toldRight)

theorem space_mem_display (expression : Expression ι) : ' ' ∈ expression.display := by
  cases expression with
  | condition c => simp [display, Condition.display]
  | and left right => simp [display]
  | or left right => simp [display]

end Expression

/-! ## Filters -/

namespace Filter

variable {catalog : Catalog ι} {root : Schema ι} {options options' : CompileOptions}
  {text text' : Text} {filter filter' : Filter ι}

theorem isTold_of_compile (compiled : compile catalog options root text = .ok filter)
    (noFloat : ∀ condition ∈ filter.conditions, ∀ x, condition.literal.value? ≠ some (.float x)) :
    ∀ condition ∈ filter.conditions, condition.IsTold catalog root := by
  intro condition member
  obtain ⟨-, -, clause, -, literal, -, given⟩ := compiled_of_mem compiled member
  exact ⟨⟨options, clause.path.steps, clause.operator, literal, given⟩, noFloat condition member⟩

/-- If the names of a schema and of all that it reaches are legible, a filter that compares with no
float is told from its rendering: two such filters that compile for the schema, be it under
different options, and are rendered in the same way are the same expression, and keep the same
items. -/
theorem eq_of_display_eq (catalog : Catalog ι) (root : Schema ι) (legible : root.Legible catalog)
    (options options' : CompileOptions) (text text' : Text) (filter filter' : Filter ι)
    (compiled : compile catalog options root text = .ok filter)
    (compiled' : compile catalog options' root text' = .ok filter')
    (noFloat : ∀ condition ∈ filter.conditions, ∀ x, condition.literal.value? ≠ some (.float x))
    (noFloat' : ∀ condition ∈ filter'.conditions, ∀ x, condition.literal.value? ≠ some (.float x))
    (same : filter.display = filter'.display) :
    filter = filter' ∧ ∀ item, filter.holds item = filter'.holds item := by
  have told := isTold_of_compile compiled noFloat
  have told' := isTold_of_compile compiled' noFloat'
  have noSpace : ' ' ∉ "TRUE".toList := by decide
  suffices filter = filter' from ⟨this, fun item => congrArg (holds · item) this⟩
  obtain ⟨expression⟩ := filter
  obtain ⟨expression'⟩ := filter'
  cases expression with
  | none =>
    cases expression' with
    | none => rfl
    | some expression' =>
      have shown : "TRUE".toList = expression'.display := same
      exact absurd (shown ▸ expression'.space_mem_display) noSpace
  | some expression =>
    cases expression' with
    | none =>
      have shown : expression.display = "TRUE".toList := same
      exact absurd (shown ▸ expression.space_mem_display) noSpace
    | some expression' =>
      obtain ⟨rfl, -⟩ := Expression.tells_of_isTold legible told expression' told' [] []
        Text.closes_nil Text.closes_nil (congrArg (· ++ []) same)
      rfl

end Filter

theorem Sample.legible (sample : Sample) : (catalog sample).Legible catalog := by
  refine Schema.legible_of_catalog (fun sample => ?_) sample
  cases sample <;> decide +kernel

/-- Two texts for people that write a date, an absent value, a member and a path in different ways,
under different options. The needle holds a word and parentheses of renderings. -/
theorem Filter.eq_of_display_eq_people :
    let english : CompileOptions := { nullLiteral := some "null".toList }
    let german : CompileOptions :=
      { dateFormats := ["%d.%m.%Y".toList], nullLiteral := some "keins".toList }
    ∃ filter filter',
      compile Sample.catalog english (Sample.catalog .person)
          "birth_date=2024-02-29|null,friends.role!=ADMIN,email%) OR (".toList = .ok filter ∧
      compile Sample.catalog german (Sample.catalog .person)
          "BIRTH_DATE=29.02.2024|keins,Friends.Role!=admin,email%) or (".toList =
        .ok filter' ∧
      filter.display = ("(((birth_date = 2024-02-29 OR birth_date = null) AND ".toList ++
        "friends.role != Admin) AND email % \") or (\")".toList) ∧
      filter = filter' ∧ ∀ item, filter.holds item = filter'.holds item := by
  intro english german
  let rendering : Text := "(((birth_date = 2024-02-29 OR birth_date = null) AND ".toList ++
    "friends.role != Admin) AND email % \") or (\")".toList
  let shows (filter : Filter Sample) : Bool := filter.display = rendering &&
    filter.conditions.all fun condition => condition.literal.value?.all (·.kind ≠ 4)
  have noFloat : ∀ {filter : Filter Sample}, shows filter = true →
      ∀ condition ∈ filter.conditions, ∀ x, condition.literal.value? ≠ some (.float x) := by
    intro filter shown condition member x held
    have plain := List.all_eq_true.1 (Bool.and_eq_true_iff.1 shown).2 condition member
    rw [held] at plain
    exact absurd plain (by simp [Value.kind])
  have compiles : (compile Sample.catalog english (Sample.catalog .person)
      "birth_date=2024-02-29|null,friends.role!=ADMIN,email%) OR (".toList).toOption.any
        shows := by decide +kernel
  have compiles' : (compile Sample.catalog german (Sample.catalog .person)
      "BIRTH_DATE=29.02.2024|keins,Friends.Role!=admin,email%) or (".toList).toOption.any
        shows := by decide +kernel
  obtain ⟨filter, compiled, shown⟩ := exists_of_any_toOption compiles
  obtain ⟨filter', compiled', shown'⟩ := exists_of_any_toOption compiles'
  have rendered : filter.display = rendering :=
    of_decide_eq_true (Bool.and_eq_true_iff.1 shown).1
  have rendered' : filter'.display = rendering :=
    of_decide_eq_true (Bool.and_eq_true_iff.1 shown').1
  exact ⟨filter, filter', compiled, compiled', rendered,
    eq_of_display_eq Sample.catalog (Sample.catalog .person) (Sample.legible .person) english german
      _ _ filter filter' compiled compiled' (noFloat shown) (noFloat shown')
      (rendered.trans rendered'.symm)⟩

end TextQuery
