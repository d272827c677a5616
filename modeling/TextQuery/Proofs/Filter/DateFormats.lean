import Mathlib.Data.List.Flatten
import TextQuery.Proofs.Filter.Faults
import TextQuery.Samples.Catalog

/-!
More date formats at the end of the list. What the earlier formats read they still read in the same
way, also where a date is the last thing to be tried, behind the formats with a time and behind
instants: reading with the longer list is reading with the shorter one, or else with the added
formats alone (`ScalarType.read?_withMoreDates`). So a literal has the outcome that it had, or it
was invalid and is a value now (`Literal.read_withMoreDates`). Main statement:
`Filter.more_dates_conservative`.
-/

namespace TextQuery

variable {ι : Type}

/-! ## Options -/

namespace CompileOptions

/-- The options with further date formats, tried after all others. -/
def withMoreDates (options : CompileOptions) (more : List Text) : CompileOptions :=
  { options with dateFormats := options.dateFormats ++ more }

/-- Options with certain date formats and no formats for dates with a time. -/
def onlyDates (formats : List Text) : CompileOptions :=
  { dateFormats := formats, dateTimeFormats := [] }

variable (options : CompileOptions) (more : List Text) (text : Text)

theorem readDate?_withMoreDates :
    (options.withMoreDates more).readDate? text =
      (options.readDate? text).or ((onlyDates more).readDate? text) :=
  List.findSome?_append

theorem readDateTime?_withMoreDates :
    (options.withMoreDates more).readDateTime? text =
      (options.readDateTime? text).or ((onlyDates more).readDateTime? text) := by
  have dated : (onlyDates more).readDateTime? text =
      ((onlyDates more).readDate? text).map DateTime.atMidnight := rfl
  rw [dated]
  unfold readDateTime?
  rw [readDate?_withMoreDates, Option.map_or, Option.or_assoc]
  rfl

end CompileOptions

/-! ## Literals -/

namespace ScalarType

/-- The types whose values can be written as a date. -/
def readsDates : ScalarType → Bool
  | date => true
  | dateTime => true
  | timestamp => true
  | _ => false

/-- Only dates, and what a date alone can stand for, depend on the options. -/
theorem read?_eq_of_not_readsDates {type : ScalarType} (undated : type.readsDates = false)
    (options options' : CompileOptions) (text : Text) :
    type.read? options text = type.read? options' text := by
  cases type with
  | date => cases undated
  | dateTime => cases undated
  | timestamp => cases undated
  | _ => rfl

/-- Reading with a longer list of date formats is reading as before, or else with the added formats
alone. -/
theorem read?_withMoreDates (options : CompileOptions) (more : List Text) (type : ScalarType)
    (text : Text) :
    type.read? (options.withMoreDates more) text =
      (type.read? options text).or (type.read? (.onlyDates more) text) := by
  cases type with
  | date =>
    unfold read?
    rw [CompileOptions.readDate?_withMoreDates, Option.map_or]
  | dateTime =>
    unfold read?
    rw [CompileOptions.readDateTime?_withMoreDates, Option.map_or]
  | timestamp =>
    unfold read?
    dsimp only
    rw [CompileOptions.readDateTime?_withMoreDates]
    -- An instant with its offset is tried before all formats, with either list.
    cases Timestamp.read? text.trim with
    | some instant => rfl
    | none => rw [Option.none_or, Option.none_or, Option.none_or, Option.map_or, Option.map_or]
  | _ => exact Option.or_self.symm

theorem read_withMoreDates (options : CompileOptions) (more : List Text) (type : ScalarType)
    (text : Text) :
    Mends (fun e => type.readsDates = true ∧ e = .invalidLiteral text type.name)
      (type.read options text) (type.read (options.withMoreDates more) text) := by
  have extended := read?_withMoreDates options more type text
  cases before : type.read? options text with
  | some value =>
    left
    unfold read
    rw [extended, before]
    rfl
  | none =>
    rw [before, Option.none_or] at extended
    cases dated : type.readsDates with
    | false =>
      left
      unfold read
      rw [read?_eq_of_not_readsDates dated (options.withMoreDates more) options]
    | true =>
      have unguided : type ≠ .guid := by
        rintro rfl
        cases dated
      have refused : type.read options text = .error (.invalidLiteral text type.name) := by
        unfold read
        rw [before]
        exact congrArg Except.error (if_neg unguided)
      cases added : type.read? (.onlyDates more) text with
      | some value =>
        refine Or.inr ⟨_, refused, ⟨rfl, rfl⟩, value, ?_⟩
        unfold read
        rw [extended, added]
      | none =>
        left
        unfold read
        rw [extended, added, before]

end ScalarType

/-- The error of a literal that its type cannot hold, for a type whose values can be written as a
date. -/
def FieldType.IsInvalidDate (type : FieldType ι) (text : Text) (error : CompileError) : Prop :=
  ∃ scalar : ScalarType, type = .scalar scalar ∧ scalar.readsDates = true ∧
    error = .invalidLiteral text scalar.name

theorem FieldType.readValue_withMoreDates (catalog : Catalog ι) (options : CompileOptions)
    (more : List Text) (type : FieldType ι) (text : Text) :
    Mends (type.IsInvalidDate text) (type.readValue catalog options text)
      (type.readValue catalog (options.withMoreDates more) text) := by
  cases type with
  | scalar type =>
    refine (type.read_withMoreDates options more text).mono ?_
    rintro error ⟨dated, rfl⟩
    exact ⟨type, rfl, dated, rfl⟩
  | enum enumeration => exact .refl _
  | nullable inner => exact .refl _
  | object schema => exact .refl _
  | collection element => exact .refl _

/-- With further date formats a literal has the outcome that it had, or it was invalid for a date, a
date with a time or an instant, and is a value now. -/
theorem Literal.read_withMoreDates (catalog : Catalog ι) (options : CompileOptions)
    (more : List Text) (type : FieldType ι) (operator : Operator) (text : Text) :
    Mends (type.underlying.IsInvalidDate text) (read catalog options type operator text)
      (read catalog (options.withMoreDates more) type operator text) := by
  have absent : (options.withMoreDates more).isNullLiteral text = options.isNullLiteral text := rfl
  rw [read_eq, read_eq, absent]
  split
  · exact .refl _
  · split
    · exact .refl _
    · split
      · exact .refl _
      · exact (type.underlying.readValue_withMoreDates catalog options more text).map _

/-! ## Clauses and filters -/

section Schema

variable (catalog : Catalog ι) (options : CompileOptions) (more : List Text) (root : Schema ι)

/-- The error of an invalid literal. -/
def CompileError.IsInvalidLiteral (error : CompileError) : Prop :=
  ∃ literal target, error = .invalidLiteral literal target

theorem FieldType.IsInvalidDate.isInvalidLiteral {type : FieldType ι} {text : Text}
    {error : CompileError} (invalid : type.IsInvalidDate text error) : error.IsInvalidLiteral := by
  obtain ⟨scalar, -, -, rfl⟩ := invalid
  exact ⟨text, scalar.name, rfl⟩

theorem Literal.mends_withMoreDates (type : FieldType ι) (operator : Operator) (text : Text) :
    Mends CompileError.IsInvalidLiteral (read catalog options type operator text)
      (read catalog (options.withMoreDates more) type operator text) :=
  (read_withMoreDates catalog options more type operator text).mono fun _ invalid =>
    invalid.isInvalidLiteral

theorem Clause.compile_withMoreDates (clause : Clause) :
    AgreesUnless CompileError.IsInvalidLiteral (clause.compile catalog options root)
      (clause.compile catalog (options.withMoreDates more) root) := by
  refine (AgreesUnless.refl _).bind fun path => .mapM (fun literal => ?_) clause.values
  exact (Literal.mends_withMoreDates catalog options more path.terminal clause.operator
    literal).agreesUnless.map _

theorem Clause.faults_withMoreDates (clause : Clause) :
    (clause.faults catalog (options.withMoreDates more) root).Sublist
        (clause.faults catalog options root) ∧
      ∀ fault ∈ clause.faults catalog options root,
        fault ∈ clause.faults catalog (options.withMoreDates more) root ∨
          fault.IsInvalidLiteral := by
  unfold faults
  cases PropertyPath.resolve catalog root clause.path with
  | error error => exact ⟨.refl _, fun fault member => Or.inl member⟩
  | ok path =>
    exact Mends.filterMap_errorOf?
      (Literal.mends_withMoreDates catalog options more path.terminal clause.operator) clause.values

theorem Filter.compile_withMoreDates (text : Text) :
    AgreesUnless CompileError.IsInvalidLiteral (compile catalog options root text)
      (compile catalog (options.withMoreDates more) root text) := by
  refine (AgreesUnless.refl _).bind fun clauses => ?_
  refine .bind (.mapM (Clause.compile_withMoreDates catalog options more root) clauses) ?_
  exact fun conditions => .refl _

theorem Filter.faults_withMoreDates (text : Text) :
    (faults catalog (options.withMoreDates more) root text).Sublist
        (faults catalog options root text) ∧
      ∀ fault ∈ faults catalog options root text,
        fault ∈ faults catalog (options.withMoreDates more) root text ∨
          fault.IsInvalidLiteral := by
  have each := Clause.faults_withMoreDates catalog options more root
  unfold faults
  refine ⟨?_, ?_⟩
  · refine (List.Sublist.refl _).append (List.Sublist.flatMap_right _ ?_)
    exact fun clause _ => (each clause).1
  · intro fault member
    rcases List.mem_append.1 member with unread | unfit
    · exact Or.inl (List.mem_append_left _ unread)
    · obtain ⟨clause, within, faulty⟩ := List.mem_flatMap.1 unfit
      refine ((each clause).2 fault faulty).imp_left fun remains => ?_
      exact List.mem_append_right _ (List.mem_flatMap.2 ⟨clause, within, remains⟩)

/-- Date formats at the end of the list change nothing that was read before. A filter text that
compiles compiles to the same filter, and one that is refused for anything but an invalid literal is
refused in the same way. A literal has the outcome that it had, unless it was invalid for a date, a
date with a time or an instant and is a value now; and in a whole text nothing is wrong that was not
wrong before, while invalid literals alone may be wrong no more. -/
theorem Filter.more_dates_conservative (text : Text) :
    (∀ filter, compile catalog options root text = .ok filter →
      compile catalog (options.withMoreDates more) root text = .ok filter) ∧
    (compile catalog (options.withMoreDates more) root text ≠ compile catalog options root text →
      ∃ literal target,
        compile catalog options root text = .error (.invalidLiteral literal target)) ∧
    (∀ (type : FieldType ι) operator literal,
      Literal.read catalog (options.withMoreDates more) type operator literal =
          Literal.read catalog options type operator literal ∨
        ∃ scalar value, type.underlying = .scalar scalar ∧ scalar.readsDates = true ∧
          Literal.read catalog options type operator literal =
            .error (.invalidLiteral literal scalar.name) ∧
          Literal.read catalog (options.withMoreDates more) type operator literal = .ok value) ∧
    (faults catalog (options.withMoreDates more) root text).Sublist
      (faults catalog options root text) ∧
    (∀ fault ∈ faults catalog options root text,
      fault ∈ faults catalog (options.withMoreDates more) root text ∨
        ∃ literal target, fault = .invalidLiteral literal target) := by
  have agrees := compile_withMoreDates catalog options more root text
  refine ⟨fun filter => agrees.eq_ok, ?_, ?_, faults_withMoreDates catalog options more root text⟩
  · intro differs
    rcases agrees with same | ⟨error, failed, literal, target, rfl⟩
    · exact absurd same differs
    · exact ⟨literal, target, failed⟩
  · intro type operator literal
    rcases Literal.read_withMoreDates catalog options more type operator literal with
      same | ⟨error, failed, ⟨scalar, isScalar, dated, rfl⟩, value, read⟩
    · exact Or.inl same
    · exact Or.inr ⟨scalar, value, isScalar, dated, failed, read⟩

end Schema

/-- Dates, a date with a time and an instant that compile without the added formats, and a date and
an instant that compile only with them: one written with as few digits as possible, and one by the
week of its year. -/
theorem Filter.more_dates_conservative_scalars :
    let formats := ["%-d.%-m.%Y".toList, "%G-W%V-%u".toList]
    let extended := CompileOptions.withMoreDates {} formats
    let text :=
      "f_date=01/02/2020,f_datetime>2020-01-02|01/02/2020,f_timestamp<2020-01-02T03:04:05Z".toList
    (∃ filter, compile Sample.catalog {} (Sample.catalog .scalars) text = .ok filter ∧
      filter.conditions.length = 4 ∧
      compile Sample.catalog extended (Sample.catalog .scalars) text = .ok filter) ∧
    ∀ added ∈ ["f_date=2.1.1991".toList, "f_timestamp>2020-W53-5".toList],
      (compile Sample.catalog extended (Sample.catalog .scalars) added).toOption.isSome = true ∧
      ∃ literal target,
        compile Sample.catalog {} (Sample.catalog .scalars) added =
          .error (.invalidLiteral literal target) := by
  intro formats extended text
  have compiles : (compile Sample.catalog {} (Sample.catalog .scalars) text).toOption.any
      (·.conditions.length = 4) = true := by
    decide +kernel
  obtain ⟨filter, compiled, four⟩ := exists_of_any_toOption compiles
  have keeps := (more_dates_conservative Sample.catalog {} formats (Sample.catalog .scalars)
    text).1 filter compiled
  refine ⟨⟨filter, compiled, of_decide_eq_true four, keeps⟩, ?_⟩
  have outcomes : ∀ added ∈ ["f_date=2.1.1991".toList, "f_timestamp>2020-W53-5".toList],
      (compile Sample.catalog extended (Sample.catalog .scalars) added).toOption.isSome = true ∧
      (compile Sample.catalog {} (Sample.catalog .scalars) added).toOption.isSome = false := by
    decide +kernel
  intro added member
  obtain ⟨now, before⟩ := outcomes added member
  refine ⟨now, ?_⟩
  refine (more_dates_conservative Sample.catalog {} formats (Sample.catalog .scalars)
    added).2.1 fun same => ?_
  have unchanged : (compile Sample.catalog extended (Sample.catalog .scalars) added).toOption =
      (compile Sample.catalog {} (Sample.catalog .scalars) added).toOption :=
    congrArg Except.toOption same
  rw [unchanged, before] at now
  cases now

end TextQuery
