import TextQuery.Proofs.Literal.OwnTexts
import TextQuery.Proofs.Text.QuotedTexts

/-!
Literals told from their renderings. Values of one kind have different texts, since each text is
read as its value: this goes for numbers, days, moments, instants and GUIDs, but not for floats,
which are left out. Strings and characters are quoted, and members are told by their names, where
these are legible (`Text.IsLegible`) and none of them is the word for absent values. Main statement:
what begins with the rendering of a literal, read for a type and an operator that are known, tells
the literal (`Literal.display_append_inj`).
-/

namespace TextQuery

variable {ι : Type}

/-! ## Texts of values of one kind -/

theorem Numeral.ofNat_inj {m n : Nat} (same : ofNat m = ofNat n) : m = n :=
  (denotes_ofNat m).unique (same ▸ denotes_ofNat n)

theorem Numeral.ofInt_inj {m n : Int} (same : ofInt m = ofInt n) : m = n := by
  have spells : ∀ n, IntegerType.i64.Spells (ofInt n) n :=
    fun _ => IntegerType.spells_ofInt (Or.inl rfl)
  exact (spells m).unique (same ▸ spells n)

theorem Date.text_inj {left right : Date} (same : left.text = right.text) : left = right := by
  have read := CompileOptions.readDate?_text left
  rw [same, CompileOptions.readDate?_text] at read
  exact (Option.some.inj read).symm

theorem DateTime.text_inj {left right : DateTime} (onClock : left.time.IsOnClock)
    (onClock' : right.time.IsOnClock) (same : left.text = right.text) : left = right := by
  have read := CompileOptions.readDateTime?_text onClock
  rw [same, CompileOptions.readDateTime?_text onClock'] at read
  exact (Option.some.inj read).symm

theorem Timestamp.text_inj {left right : Timestamp} (onClock : left.utc.time.IsOnClock)
    (onClock' : right.utc.time.IsOnClock) (same : left.text = right.text) : left = right := by
  have moments := DateTime.text_inj onClock onClock' (List.append_cancel_right same)
  obtain ⟨utc⟩ := left
  exact congrArg Timestamp.mk moments

theorem Guid.text_inj {left right : Guid} (same : left.text = right.text) : left = right := by
  have read := left.read?_text
  rw [same, right.read?_text] at read
  exact (Option.some.inj read).symm

namespace Value

/-- The text of the value is read back as the value, and renderings show it without quotes. -/
def isPlain : Value → Bool
  | bool _ => true
  | signed _ => true
  | unsigned _ => true
  | date _ => true
  | dateTime _ => true
  | timestamp _ => true
  | guid _ => true
  | _ => false

variable {left right value : Value} {rest rest' : Text}

theorem isBare_text (plain : value.isPlain = true) : value.text.IsBare := by
  cases value with
  | bool b => cases b <;> decide
  | signed n => exact Numeral.isBare_ofInt n
  | unsigned n => exact (Numeral.denotes_ofNat n).isBare
  | date day => exact day.isBare_text
  | dateTime moment => exact moment.isBare_text
  | timestamp instant => exact instant.isBare_text
  | guid id => exact id.isBare_text
  | _ => cases plain

theorem display_of_isPlain (plain : value.isPlain = true) : value.display = value.text := by
  cases value with
  | string content => cases plain
  | char c => cases plain
  | _ => rfl

theorem isPlain_eq_of_kind (kinds : left.kind = right.kind) : left.isPlain = right.isPlain := by
  cases left <;> cases right <;> first | rfl | cases kinds

/-- Values of one kind are told from their texts. -/
theorem text_inj (plain : left.isPlain = true) (kinds : left.kind = right.kind)
    (onClock : left.IsOnClock) (onClock' : right.IsOnClock) (same : left.text = right.text) :
    left = right := by
  cases left with
  | bool b =>
    cases right with
    | bool b' =>
      have table : ∀ b b' : Bool, (bool b).text = (bool b').text → b = b' := by decide
      exact congrArg bool (table b b' same)
    | _ => cases kinds
  | signed n =>
    cases right with
    | signed n' => exact congrArg signed (Numeral.ofInt_inj same)
    | _ => cases kinds
  | unsigned n =>
    cases right with
    | unsigned n' => exact congrArg unsigned (Numeral.ofNat_inj same)
    | _ => cases kinds
  | date day =>
    cases right with
    | date day' => exact congrArg date (Date.text_inj same)
    | _ => cases kinds
  | dateTime moment =>
    cases right with
    | dateTime moment' => exact congrArg dateTime (DateTime.text_inj onClock onClock' same)
    | _ => cases kinds
  | timestamp instant =>
    cases right with
    | timestamp instant' => exact congrArg timestamp (Timestamp.text_inj onClock onClock' same)
    | _ => cases kinds
  | guid id =>
    cases right with
    | guid id' => exact congrArg guid (Guid.text_inj same)
    | _ => cases kinds
  | _ => cases plain

/-- A value tells where its rendering ends, if what follows closes it. -/
theorem display_append_inj (kinds : left.kind = right.kind) (noFloat : ∀ x, left ≠ .float x)
    (noMember : ∀ ordinal name, left ≠ .member ordinal name) (onClock : left.IsOnClock)
    (onClock' : right.IsOnClock) (closes : Text.Closes rest) (closes' : Text.Closes rest')
    (same : left.display ++ rest = right.display ++ rest') : left = right ∧ rest = rest' := by
  cases plain : left.isPlain with
  | true =>
    have plain' : right.isPlain = true := isPlain_eq_of_kind kinds ▸ plain
    rw [display_of_isPlain plain, display_of_isPlain plain'] at same
    obtain ⟨texts, rests⟩ :=
      (isBare_text plain).append_inj (isBare_text plain') closes closes' same
    exact ⟨text_inj plain kinds onClock onClock' texts, rests⟩
  | false =>
    cases left with
    | string content =>
      cases right with
      | string content' =>
        obtain ⟨rfl, rests⟩ := Text.quote_append_inj same
        exact ⟨rfl, rests⟩
      | _ => cases kinds
    | char c =>
      cases right with
      | char c' =>
        obtain ⟨rfl, rests⟩ := Text.quoteChar_append_inj same
        exact ⟨rfl, rests⟩
      | _ => cases kinds
    | float x => exact absurd rfl (noFloat x)
    | member ordinal name => exact absurd rfl (noMember ordinal name)
    | _ => cases plain

/-- No value is rendered as the word for absent ones. -/
theorem display_append_ne_null (noFloat : ∀ x, value ≠ .float x)
    (noMember : ∀ ordinal name, value ≠ .member ordinal name) (closes : Text.Closes rest)
    (closes' : Text.Closes rest') : value.display ++ rest ≠ "null".toList ++ rest' := by
  intro same
  cases plain : value.isPlain with
  | true =>
    have unbroken : Text.IsUnbroken "null".toList := by decide
    rw [display_of_isPlain plain] at same
    obtain ⟨texts, -⟩ :=
      Text.append_inj_of_closes (isBare_text plain).isUnbroken unbroken closes closes' same
    -- the word has a letter that no bare text has
    have bare : Text.IsBare "null".toList := texts ▸ isBare_text plain
    exact absurd bare (by decide)
  | false =>
    have first := congrArg List.head? same
    cases value with
    | string content => exact absurd (Option.some.inj first) (by decide)
    | char c => exact absurd (Option.some.inj first) (by decide)
    | float x => exact absurd rfl (noFloat x)
    | member ordinal name => exact absurd rfl (noMember ordinal name)
    | _ => cases plain

end Value

/-! ## Legible names -/

/-- The name holds no white space, no dot and no parenthesis. -/
def Text.IsLegible (name : Text) : Prop :=
  ∀ c ∈ name, isWhiteSpace c = false ∧ c ≠ '.' ∧ c ≠ '(' ∧ c ≠ ')'

instance (name : Text) : Decidable name.IsLegible :=
  Text.decidableForall (fun c => Text.isWhiteSpace c = false ∧ c ≠ '.' ∧ c ≠ '(' ∧ c ≠ ')') name

theorem Text.IsLegible.isUnbroken {name : Text} (legible : name.IsLegible) : name.IsUnbroken := by
  intro c member closer
  obtain ⟨visible, -, -, noParenthesis⟩ := legible c member
  rcases List.mem_cons.1 closer with rfl | closer
  · exact absurd visible (by decide)
  · exact noParenthesis (List.mem_singleton.1 closer)

namespace EnumSchema

/-- Every member has a legible name, and none is named like an absent value. -/
def Legible (enumeration : EnumSchema) : Prop :=
  ∀ name ∈ enumeration.members, name.IsLegible ∧ name ≠ "null".toList

instance (enumeration : EnumSchema) : Decidable enumeration.Legible :=
  inferInstanceAs (Decidable (∀ name ∈ enumeration.members, _ ∧ _))

variable {enumeration : EnumSchema} {text : Text} {value : Value}

section Rendered

variable (legible : enumeration.Legible) {rest rest' : Text} (closes : Text.Closes rest)
  (closes' : Text.Closes rest')

include legible closes closes'

theorem display_append_inj {text' : Text} {left right : Value}
    (read : enumeration.read text = .ok left) (read' : enumeration.read text' = .ok right)
    (same : left.display ++ rest = right.display ++ rest') : left = right ∧ rest = rest' := by
  obtain ⟨ordinal, name, rfl, held, first⟩ := exists_of_read read
  obtain ⟨ordinal', name', rfl, held', first'⟩ := exists_of_read read'
  have legibleName := (legible name (List.mem_of_getElem? held)).1
  have legibleName' := (legible name' (List.mem_of_getElem? held')).1
  obtain ⟨rfl, rests⟩ := Text.append_inj_of_closes legibleName.isUnbroken legibleName'.isUnbroken
    closes closes' same
  rw [first] at first'
  obtain rfl := Option.some.inj first'
  exact ⟨rfl, rests⟩

theorem display_append_ne_null (read : enumeration.read text = .ok value) :
    value.display ++ rest ≠ "null".toList ++ rest' := by
  intro same
  obtain ⟨ordinal, name, rfl, held, -⟩ := exists_of_read read
  obtain ⟨legibleName, noNull⟩ := legible name (List.mem_of_getElem? held)
  have unbroken : Text.IsUnbroken "null".toList := by decide
  exact noNull
    (Text.append_inj_of_closes legibleName.isUnbroken unbroken closes closes' same).1

end Rendered

end EnumSchema

/-! ## Literals -/

section Readers

variable {catalog : Catalog ι} {options options' : CompileOptions} {type : FieldType ι}
  {text text' rest rest' : Text} (closes : Text.Closes rest) (closes' : Text.Closes rest')

theorem ScalarType.ne_member_of_holds {type : ScalarType} {value : Value}
    (held : type.holds value = true) (ordinal : Nat) (name : Text) :
    value ≠ .member ordinal name := by
  rintro rfl
  cases type with
  | integer type => cases type <;> cases held
  | _ => cases held

variable (legible : ∀ enumeration, type = .enum enumeration → enumeration.Legible)

include closes closes' legible

theorem FieldType.display_append_inj_of_readValue {left right : Value}
    (read : type.readValue catalog options text = .ok left)
    (read' : type.readValue catalog options' text' = .ok right)
    (noFloat : ∀ x, left ≠ .float x) (same : left.display ++ rest = right.display ++ rest') :
    left = right ∧ rest = rest' := by
  cases type with
  | scalar type =>
    have given := ScalarType.read?_of_read read
    have given' := ScalarType.read?_of_read read'
    have held := ScalarType.holds_of_read? given
    exact Value.display_append_inj
      (ScalarType.kind_eq_of_holds held (ScalarType.holds_of_read? given')) noFloat
      (ScalarType.ne_member_of_holds held) (ScalarType.isOnClock_of_read? given)
      (ScalarType.isOnClock_of_read? given') closes closes' same
  | enum enumeration =>
    exact EnumSchema.display_append_inj (legible enumeration rfl) closes closes' read read' same
  | nullable inner => cases read
  | object schema => cases read
  | collection element => cases read

theorem FieldType.display_append_ne_null_of_readValue {value : Value}
    (read : type.readValue catalog options text = .ok value) (noFloat : ∀ x, value ≠ .float x) :
    value.display ++ rest ≠ "null".toList ++ rest' := by
  cases type with
  | scalar type =>
    have held := ScalarType.holds_of_read? (ScalarType.read?_of_read read)
    exact Value.display_append_ne_null noFloat (ScalarType.ne_member_of_holds held) closes closes'
  | enum enumeration =>
    exact EnumSchema.display_append_ne_null (legible enumeration rfl) closes closes' read
  | nullable inner => cases read
  | object schema => cases read
  | collection element => cases read

end Readers

namespace Literal

section Rendered

variable {catalog : Catalog ι} {options options' : CompileOptions} {type : FieldType ι}
  {operator : Operator} {text text' : Text} {left right : Literal}
  (read : Literal.read catalog options type operator text = .ok left)
  (read' : Literal.read catalog options' type operator text' = .ok right)

theorem display_of_value? {literal : Literal} {value : Value} (held : literal.value? = some value) :
    literal.display = value.display := by
  cases literal with
  | typed content =>
    cases held
    rfl
  | nullable content =>
    cases held
    rfl
  | needle content => cases held

include read

/-- A literal that is compared says that there is no value, or holds the one that was read. -/
theorem absent_or_value_of_read (compares : operator.isTextual = false) :
    left = .nullable none ∨ ∃ value, left.value? = some value ∧
      type.underlying.readValue catalog options text = .ok value := by
  obtain ⟨-, ⟨searches, -⟩ | ⟨-, absent, -⟩ | ⟨-, -, value, given, shown⟩⟩ := cases_of_read read
  · rw [compares] at searches
    cases searches
  · exact Or.inl absent
  · refine Or.inr ⟨value, ?_, given⟩
    rcases shown with rfl | rfl <;> rfl

include read'

/-- Whether a value stands in a literal as a possibly absent one is a matter of the type. -/
theorem eq_of_value? {value : Value} (held : left.value? = some value)
    (held' : right.value? = some value) : left = right := by
  have shape : ∀ {options : CompileOptions} {text : Text} {literal : Literal},
      Literal.read catalog options type operator text = .ok literal → literal.value? = some value →
      literal = if type.isNullable = true then .nullable (some value) else .typed value := by
    intro options text literal read held
    rw [read_eq] at read
    split at read
    · cases read
    split at read
    · cases read
      cases held
    split at read
    · cases read
      cases held
    · obtain ⟨value', -, rfl⟩ := map_eq_ok_iff.1 read
      split at held <;> cases held <;> rfl
  rw [shape read held, shape read' held']

/-- A literal that was read for a known type and operator tells where its rendering ends, if what
follows closes it, unless it is a float. -/
theorem display_append_inj
    (legible : ∀ enumeration, type.underlying = .enum enumeration → enumeration.Legible)
    (noFloat : ∀ x, left.value? ≠ some (.float x)) (noFloat' : ∀ x, right.value? ≠ some (.float x))
    {rest rest' : Text} (closes : Text.Closes rest) (closes' : Text.Closes rest')
    (same : left.display ++ rest = right.display ++ rest') : left = right ∧ rest = rest' := by
  have floatless : ∀ {literal : Literal} {value : Value},
      (∀ x, literal.value? ≠ some (.float x)) → literal.value? = some value →
      ∀ x, value ≠ .float x := by
    rintro literal value noFloat held x rfl
    exact noFloat x held
  cases searches : operator.isTextual with
  | true =>
    obtain ⟨needle, rfl⟩ := needle_of_read searches read
    obtain ⟨needle', rfl⟩ := needle_of_read searches read'
    obtain ⟨rfl, rests⟩ := Text.quote_append_inj same
    exact ⟨rfl, rests⟩
  | false =>
    rcases absent_or_value_of_read read searches with rfl | ⟨value, held, given⟩
    · rcases absent_or_value_of_read read' searches with rfl | ⟨value', held', given'⟩
      · exact ⟨rfl, List.append_cancel_left same⟩
      · rw [display_of_value? held'] at same
        exact absurd same.symm (FieldType.display_append_ne_null_of_readValue closes' closes
          legible given' (floatless noFloat' held'))
    · rw [display_of_value? held] at same
      rcases absent_or_value_of_read read' searches with rfl | ⟨value', held', given'⟩
      · exact absurd same (FieldType.display_append_ne_null_of_readValue closes closes' legible
          given (floatless noFloat held))
      · rw [display_of_value? held'] at same
        obtain ⟨rfl, rests⟩ := FieldType.display_append_inj_of_readValue closes closes' legible
          given given' (floatless noFloat held) same
        exact ⟨eq_of_value? read read' held held', rests⟩

end Rendered

end Literal

end TextQuery
