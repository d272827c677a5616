import TextQuery.Proofs.Calendar.WrittenForms
import TextQuery.Proofs.Filter.IntegerConditions
import TextQuery.Proofs.Literal.Guids

/-!
The text of a value as a literal for it. What values are searched by is also how they can be
written: read for the type of the field, the text of a value gives the value back. This is shown for
each scalar type from its written form (`ScalarType.read?_text`) and for members from their names
(`EnumSchema.read_name`). Floats are left out, and names with white space around them have to be,
since literals are trimmed (`Literal.padded_name_refused`). Main statement: `Literal.own_text_read`.
-/

namespace TextQuery

variable {ι : Type}

/-- A field of the type can hold the value. -/
def FieldType.Shows : FieldType ι → Value → Prop
  | scalar type, content => ∃ data, type.fits data = true ∧ type.view data = .value content
  | enum enumeration, .member ordinal name => enumeration.members[ordinal]? = some name
  | nullable inner, content => inner.Shows content
  | _, _ => False

/-- Under its nullable layers, such a type is a scalar type or an enumeration. -/
theorem FieldType.Shows.cases_underlying {type : FieldType ι} {content : Value}
    (shows : type.Shows content) :
    (∃ (scalar : ScalarType) (data : Stored), type.underlying = .scalar scalar ∧
        scalar.fits data = true ∧ scalar.view data = .value content) ∨
      ∃ (enumeration : EnumSchema) (ordinal : Nat) (name : Text),
        type.underlying = .enum enumeration ∧ content = .member ordinal name ∧
          enumeration.members[ordinal]? = some name := by
  induction type with
  | nullable inner ih => exact ih shows
  | scalar type =>
    obtain ⟨data, typed, seen⟩ := shows
    exact Or.inl ⟨type, data, rfl, typed, seen⟩
  | enum enumeration =>
    cases content with
    | member ordinal name => exact Or.inr ⟨enumeration, ordinal, name, rfl, rfl, shows⟩
    | _ => cases shows
  | object schema => cases shows
  | collection element => cases shows

/-! ## Default patterns -/

namespace CompileOptions

theorem readDate?_text (date : Date) : ({} : CompileOptions).readDate? date.text = some date := by
  have pattern : Pattern.ofText "%Y-%m-%d".toList = Pattern.dateItems := by decide
  unfold readDate?
  rw [List.findSome?_cons, pattern, Pattern.readDate?_text]

theorem readDateTime?_text {moment : DateTime} (onClock : moment.time.IsOnClock) :
    ({} : CompileOptions).readDateTime? moment.text = some moment := by
  have pattern : Pattern.ofText "%Y-%m-%dT%H:%M:%S%.f".toList =
      Pattern.dateItems ++ .literal 'T' :: Pattern.timeItems := by decide
  unfold readDateTime?
  rw [List.findSome?_cons, pattern, Pattern.readDateTime?_text onClock]
  rfl

end CompileOptions

/-! ## Scalars -/

namespace IntegerType

/-- Whichever way a number of the type is held, its text is written in the same way. -/
theorem text_value {type : IntegerType} {n : Int} (above : type.low ≤ n) :
    (type.value n).text = Numeral.ofInt n := by
  unfold value
  cases wide : type.isWide with
  | false => rfl
  | true =>
    have natural : 0 ≤ n := low_eq_zero_of_isWide wide ▸ above
    unfold Numeral.ofInt
    rw [if_neg (Int.not_lt.2 natural)]
    obtain ⟨m, rfl⟩ := Int.eq_ofNat_of_zero_le natural
    rfl

theorem read?_text {type : IntegerType} {n : Int} (above : type.low ≤ n) (below : n ≤ type.high) :
    type.read? (Numeral.ofInt n).trim = some n := by
  have allowed : type.isSigned = true ∨ 0 ≤ n := by
    cases signed : type.isSigned with
    | true => exact Or.inl rfl
    | false =>
      unfold low at above
      rw [signed] at above
      exact Or.inr above
  rw [(Numeral.isBare_ofInt n).trim]
  exact read?_eq_some_iff.2 ⟨spells_ofInt allowed, above, below⟩

end IntegerType

/-- The text of what a scalar field holds is read as what it holds, apart from floats. -/
theorem ScalarType.read?_text {type : ScalarType} {data : Stored} {content : Value}
    (typed : type.fits data = true) (seen : type.view data = .value content)
    (noFloat : ∀ float, type ≠ .float float)
    (era : ∀ instant, content = .timestamp instant →
      0 ≤ instant.utc.date.year ∧ instant.utc.date.year ≤ 9999)
    (onClock : content.IsOnClock) : type.read? {} content.text = some content := by
  -- one case for each form of data that fits a scalar type
  unfold fits at typed
  split at typed
  · rename_i b
    cases seen
    cases b <;> decide
  · cases seen
    rfl
  · rename_i type n
    obtain ⟨above, below⟩ := Bool.and_eq_true_iff.1 typed
    have above : type.low ≤ n := of_decide_eq_true above
    have held : content = type.value n := (View.value.inj seen).symm
    rw [held, IntegerType.text_value above]
    change (type.read? (Numeral.ofInt n).trim).map type.value = _
    rw [IntegerType.read?_text above (of_decide_eq_true below)]
    rfl
  · exact absurd rfl (noFloat _)
  · cases seen
    rfl
  · rename_i day
    cases seen
    change (CompileOptions.readDate? {} day.text.trim).map Value.date = _
    rw [day.isBare_text.trim, CompileOptions.readDate?_text]
    rfl
  · rename_i moment
    cases seen
    change (CompileOptions.readDateTime? {} moment.text.trim).map Value.dateTime = _
    rw [moment.isBare_text.trim, CompileOptions.readDateTime?_text onClock]
    rfl
  · rename_i instant
    cases seen
    obtain ⟨date, time⟩ := instant
    have read : Timestamp.read? (Value.timestamp ⟨⟨date, time⟩⟩).text.trim =
        some ⟨⟨date, time⟩⟩ := by
      rw [Value.text, (Timestamp.isBare_text _).trim]
      exact Timestamp.read?_text onClock (era _ rfl)
    simp only [read?, read, Option.some_or, Option.map_some]
  · rename_i id
    cases seen
    change (Guid.read? id.text.trim).map Value.guid = _
    rw [id.isBare_text.trim, Guid.read?_text]
    rfl
  · cases typed

/-! ## Members -/

/-- A name with no white space around it is read as the member that has it, unless an earlier
member has the same name up to case. -/
theorem EnumSchema.read_name {enumeration : EnumSchema} {ordinal : Nat} {name : Text}
    (held : enumeration.members[ordinal]? = some name) (trimmed : name.trim = name)
    (unshadowed : Unshadowed enumeration.members ordinal name) :
    enumeration.read name = .ok (.member ordinal name) := by
  have found : enumeration.ordinalOf? name = some ordinal :=
    EnumSchema.ordinalOf?_eq_some_iff.2 ((FirstNamed.self_iff held).2 unshadowed)
  unfold read
  rw [trimmed, found]
  dsimp only
  rw [held]
  rfl

/-! ## Literals -/

namespace Literal

/-- The text of a value that a field can hold is a literal for this value, under default options and
for all operators that compare.

Floats are left out. A member has to be the first with its name up to case, and its name has no
white space around it. An instant has a year of four digits. A leap second comes after second 59 of
a minute, which holds of everything that is read. -/
theorem own_text_read (catalog : Catalog ι) :
    (∀ (type : FieldType ι) (operator : Operator) (content : Value), type.Shows content →
      operator.isTextual = false → (∀ float, type.underlying ≠ .scalar (.float float)) →
      (∀ enumeration ordinal name, type.underlying = .enum enumeration →
        content = .member ordinal name →
        name.trim = name ∧ Unshadowed enumeration.members ordinal name) →
      (∀ instant, content = .timestamp instant →
        0 ≤ instant.utc.date.year ∧ instant.utc.date.year ≤ 9999) →
      content.IsOnClock →
      ∃ literal, read catalog {} type operator content.text = .ok literal ∧
        literal.value? = some content) ∧
    ∀ (options : CompileOptions) (type : ScalarType) (text : Text) (content : Value),
      type.read? options text = some content → content.IsOnClock := by
  refine ⟨?_, fun options type text content => ScalarType.isOnClock_of_read?⟩
  intro type operator content shows compares noFloat names era onClock
  have value : type.isComparable = true ∧
      type.underlying.readValue catalog {} content.text = .ok content := by
    rcases shows.cases_underlying with
      ⟨scalar, data, layers, typed, seen⟩ | ⟨enumeration, ordinal, name, layers, rfl, held⟩
    · have notFloat : ∀ float, scalar ≠ .float float := by
        rintro float rfl
        exact noFloat float layers
      have given := ScalarType.read?_text typed seen notFloat era onClock
      refine ⟨FieldType.isComparable_of_scalar layers, ?_⟩
      rw [layers]
      change ScalarType.read {} scalar content.text = _
      unfold ScalarType.read
      rw [given]
    · obtain ⟨trimmed, unshadowed⟩ := names enumeration ordinal name layers rfl
      unfold FieldType.isComparable
      rw [layers]
      exact ⟨rfl, EnumSchema.read_name held trimmed unshadowed⟩
  rw [read_of_noNull value.1 compares rfl, value.2]
  refine ⟨_, rfl, ?_⟩
  cases type.isNullable <;> rfl

/-- The earliest moment of a leap second in the first year, on a field that is nullable twice; the
least number of 64 bits; a letter that is white space; an instant at the end of the last year with
four digits; a GUID; and a member with a name beyond ASCII. -/
theorem own_text_read_edges :
    let leap : DateTime := ⟨⟨-262143, 1, 1, by decide⟩, ⟨86399, 1000000001⟩⟩
    let last : Timestamp := ⟨⟨⟨9999, 12, 31, by decide⟩, ⟨86399, 999000000⟩⟩⟩
    (leap.text = "-262143-01-01T23:59:60.000000001".toList ∧
      ∃ literal, read Sample.catalog {} (.nullable (.nullable (.scalar .dateTime))) .lessOrEqual
        leap.text = .ok literal ∧ literal.value? = some (.dateTime leap)) ∧
    (∃ literal, read Sample.catalog {} (.scalar (.integer .i64)) .equals
      (Value.signed (-9223372036854775808)).text = .ok literal ∧
        literal.value? = some (.signed (-9223372036854775808))) ∧
    (∃ literal, read Sample.catalog {} (.scalar .char) .notEquals ['\u3000'] = .ok literal ∧
      literal.value? = some (.char '\u3000')) ∧
    (last.text = "9999-12-31T23:59:59.999+00:00".toList ∧
      ∃ literal, read Sample.catalog {} (.scalar .timestamp) .greaterThan last.text =
        .ok literal ∧ literal.value? = some (.timestamp last)) ∧
    (∃ literal, read Sample.catalog {} (.scalar .guid) .equals (Guid.text ⟨255⟩) = .ok literal ∧
      literal.value? = some (.guid ⟨255⟩)) ∧
    ∃ literal, read Sample.catalog {} (.enum gradeEnum) .equals "Größe".toList = .ok literal ∧
      literal.value? = some (.member 2 "Größe".toList) := by
  intro leap last
  obtain ⟨own, -⟩ := own_text_read Sample.catalog
  refine ⟨⟨by decide +kernel, ?_⟩, ?_, ?_, ⟨by decide +kernel, ?_⟩, ?_, ?_⟩
  · exact own _ .lessOrEqual (.dateTime leap) ⟨.dateTime leap, rfl, rfl⟩ rfl nofun nofun
      (by rintro _ ⟨⟩) (Or.inr (show 86399 % 60 = 59 by decide))
  · exact own _ .equals (.signed _) ⟨.integer (-9223372036854775808), rfl, rfl⟩ rfl nofun nofun
      (by rintro _ ⟨⟩) trivial
  · exact own _ .notEquals (.char _) ⟨.char '\u3000', rfl, rfl⟩ rfl nofun nofun
      (by rintro _ ⟨⟩) trivial
  · refine own _ .greaterThan (.timestamp last) ⟨.timestamp last, rfl, rfl⟩ rfl nofun nofun ?_
      (Or.inl (by decide))
    rintro instant ⟨⟩
    decide
  · exact own _ .equals (.guid _) ⟨.guid ⟨255⟩, rfl, rfl⟩ rfl nofun nofun (by rintro _ ⟨⟩) trivial
  · refine own _ .equals (.member 2 "Größe".toList) rfl rfl nofun ?_ (by rintro _ ⟨⟩) trivial
    rintro enumeration ordinal name ⟨⟩ ⟨⟩
    refine ⟨by decide +kernel, fun earlier other before held => ?_⟩
    match earlier with
    | 0 =>
      cases held
      decide +kernel
    | 1 =>
      cases held
      decide +kernel

/-- A member whose name begins with white space is not found under its own name, which is trimmed
before it is looked up. -/
theorem padded_name_refused :
    let plan : EnumSchema := ⟨"Plan".toList, [" Pro".toList]⟩
    let type : FieldType Sample := .enum plan
    let content : Value := .member 0 " Pro".toList
    type.Shows content ∧ (∀ float, type.underlying ≠ .scalar (.float float)) ∧
      Unshadowed plan.members 0 " Pro".toList ∧
      (∀ instant, content ≠ .timestamp instant) ∧ content.IsOnClock ∧
      ¬∃ literal, read Sample.catalog {} type .equals content.text = .ok literal ∧
        literal.value? = some content := by
  intro plan type content
  have refused : read Sample.catalog {} type .equals content.text =
      .error (.invalidEnumValue " Pro".toList "Plan".toList) := by
    have missing : plan.ordinalOf? (Text.trim " Pro".toList) = none := by decide +kernel
    change (EnumSchema.read plan " Pro".toList).map typed = _
    unfold EnumSchema.read
    rw [missing]
    rfl
  refine ⟨rfl, nofun, fun _ _ before => absurd before (Nat.not_lt_zero _), ?_, trivial, ?_⟩
  · intro instant same
    have same : Value.member 0 " Pro".toList = .timestamp instant := same
    cases same
  rintro ⟨literal, succeeded, -⟩
  rw [refused] at succeeded
  cases succeeded

end Literal

end TextQuery
