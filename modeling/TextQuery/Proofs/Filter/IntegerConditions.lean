import TextQuery.Proofs.Filter.Comparisons
import TextQuery.Proofs.Model.FittingData
import TextQuery.Proofs.Number.Numerals

/-!
Conditions on integers. Whatever the width of an integer type, its numbers are held in one of two
ways, and the literals of a field of this type are held in the same way as the field itself
(`IntegerType.value`). So conditions compare numbers: neither the limits of the types nor leading
zeros nor the sign get in between. Main statement: `Condition.integers_compared`.
-/

namespace TextQuery

variable {ι : Type}

/-! ## How integers are held -/

/-- The integer in a value that holds one. -/
def Value.integer? : Value → Option Int
  | signed n => some n
  | unsigned n => some n
  | _ => none

/-- Whether two integers stand in the relation of an operator that compares. -/
def Operator.relatesIntegers : Operator → Int → Int → Prop
  | equals, k, n => k = n
  | notEquals, k, n => k ≠ n
  | greaterThan, k, n => k > n
  | lessThan, k, n => k < n
  | greaterOrEqual, k, n => k ≥ n
  | lessOrEqual, k, n => k ≤ n
  | contains, _, _ => False
  | containsCaseSensitive, _, _ => False

namespace IntegerType

variable {type : IntegerType} {k n : Int}

/-- The value by which a number of the type is held. -/
def value (type : IntegerType) (n : Int) : Value :=
  if type.isWide then .unsigned n.toNat else .signed n

example : [i8, i64, u8, u64].map (fun type => (type.low, type.high)) =
    [ (-128, 127), (-9223372036854775808, 9223372036854775807), (0, 255),
      (0, 18446744073709551615) ] := by decide

theorem low_eq_zero_of_isWide (wide : type.isWide = true) : type.low = 0 := by
  cases type <;> first | rfl | cases wide

theorem eq_value_of_holds {content : Value} (held : (ScalarType.integer type).holds content = true)
    (number : content.integer? = some k) :
    content = type.value k ∧ (type.isWide = true → 0 ≤ k) := by
  cases content with
  | signed n =>
    cases number
    cases type <;> first | exact ⟨rfl, nofun⟩ | cases held
  | unsigned n =>
    cases number
    cases type <;> first | exact ⟨rfl, fun _ => Int.natCast_nonneg n⟩ | cases held
  | _ => cases number

/-- Values of one integer type are in the order of their numbers. -/
theorem compare?_value (natural : type.isWide = true → 0 ≤ k ∧ 0 ≤ n) :
    (type.value k).compare? (type.value n) = some (compare k n) := by
  unfold value
  split
  · rename_i wide
    obtain ⟨leftNatural, rightNatural⟩ := natural wide
    change some (compare k.toNat n.toNat) = _
    rw [← compare_natCast, Int.toNat_of_nonneg leftNatural, Int.toNat_of_nonneg rightNatural]
  · rfl

end IntegerType

theorem Operator.allows_compare_iff {operator : Operator} {k n : Int} :
    operator.allows (some (compare k n)) = true ↔ operator.relatesIntegers k n := by
  rw [Int.compare_eq_ite_lt]
  rcases Int.lt_trichotomy k n with less | rfl | greater
  · rw [if_pos less]
    cases operator <;> simp [allows, relatesIntegers] <;> omega
  · rw [if_neg (Int.lt_irrefl k), if_neg (Int.lt_irrefl k)]
    cases operator <;> simp [allows, relatesIntegers]
  · rw [if_neg (Int.lt_asymm greater), if_pos greater]
    cases operator <;> simp [allows, relatesIntegers] <;> omega

/-! ## Literals -/

theorem FieldType.isComparable_of_scalar {type : FieldType ι} {scalar : ScalarType}
    (holds : type.underlying = .scalar scalar) : type.isComparable = true := by
  unfold isComparable
  rw [holds]

/-- Where no literal stands for absent values, every literal of an operator that compares is read as
a value. -/
theorem Literal.read_of_noNull {catalog : Catalog ι} {options : CompileOptions}
    {type : FieldType ι} {operator : Operator} {text : Text}
    (comparable : type.isComparable = true) (compares : operator.isTextual = false)
    (noNull : options.nullLiteral = none) :
    read catalog options type operator text =
      (type.underlying.readValue catalog options text).map
        fun value => if type.isNullable = true then nullable (some value) else typed value := by
  have present : ¬(type.isNullable = true ∧ options.isNullLiteral text = true) := by
    unfold CompileOptions.isNullLiteral
    rw [noNull]
    exact fun absent => Bool.false_ne_true absent.2
  rw [read_eq, if_neg (ne_false_of_eq_true comparable), if_neg (ne_true_of_eq_false compares),
    if_neg present]

theorem FieldType.readValue_integer (catalog : Catalog ι) (options : CompileOptions)
    (type : IntegerType) (text : Text) :
    (FieldType.scalar (.integer type) : FieldType ι).readValue catalog options text =
      match type.read? text.trim with
      | some n => .ok (type.value n)
      | none => .error (.invalidLiteral text type.name) := by
  change ScalarType.read options (.integer type) text = _
  unfold ScalarType.read ScalarType.read?
  dsimp only
  cases type.read? text.trim <;> rfl

namespace Condition

section Integers

variable {catalog : Catalog ι} {options : CompileOptions} {path : PropertyPath ι}
  {operator : Operator} {type : IntegerType} {text : Text} {n : Int}
  (noNull : options.nullLiteral = none) (compares : operator.isTextual = false)
  (ends : path.terminal.underlying = .scalar (.integer type))

include noNull compares ends

variable (catalog text) in
/-- Without a literal for absent values, a literal for integers is a number of the type. -/
theorem compile_integer :
    compile catalog options path operator text =
      match type.read? text.trim with
      | some n => .ok ⟨path, operator, if path.terminal.isNullable = true
          then .nullable (some (type.value n)) else .typed (type.value n)⟩
      | none => .error (.invalidLiteral text type.name) := by
  unfold compile
  rw [Literal.read_of_noNull (FieldType.isComparable_of_scalar ends) compares noNull, ends,
    FieldType.readValue_integer]
  cases type.read? text.trim <;> rfl

end Integers

/-- Where a path ends at an integer type, a record of the schema holds its number in the way of the
type. -/
theorem walk_eq_value {catalog : Catalog ι} {root : Schema ι} {expr : PathExpr}
    {path : PropertyPath ι} {type : IntegerType} {item : View} {k : Int}
    (resolved : PropertyPath.resolve catalog root expr = .ok path) (direct : path.quantifier = none)
    (ends : path.terminal.underlying = .scalar (.integer type))
    (conforms : item.ConformsTo catalog root)
    (number : (item.walk path.indices).value?.bind Value.integer? = some k) :
    item.walk path.indices = .value (type.value k) ∧ (type.isWide = true → 0 ≤ k) := by
  have comparable := FieldType.isComparable_of_scalar ends
  have reached : item.walk path.indices ∈ path.terminals item := by
    rw [PropertyPath.terminals_of_direct direct]
    exact List.mem_singleton_self _
  obtain ⟨-, resolves⟩ := PropertyPath.resolve_eq_ok_iff.1 resolved
  have fits := resolves.terminals_conform path.root (Or.inr conforms) _ reached
  rcases fits.imp_right (·.of_comparable comparable) with absent | absent | ⟨content, found, held⟩
  · rw [absent] at number
    cases number
  · rw [absent] at number
    cases number
  · rw [found] at number ⊢
    rw [ends] at held
    obtain ⟨rfl, natural⟩ := IntegerType.eq_value_of_holds held number
    exact ⟨rfl, natural⟩

/-- Two numbers of one type are compared as integers, on a nullable field or not. -/
theorem test_integer (path : PropertyPath ι) (operator : Operator) {type : IntegerType}
    {k n : Int} (nullable : Bool) (natural : type.isWide = true → 0 ≤ k ∧ 0 ≤ n) :
    test ⟨path, operator, if nullable = true then .nullable (some (type.value n))
        else .typed (type.value n)⟩ (.value (type.value k)) = true ↔
      operator.relatesIntegers k n := by
  rw [← Operator.allows_compare_iff, ← IntegerType.compare?_value natural,
    ← Operator.relates_values]
  cases nullable <;> exact Iff.rfl

/-- What a condition on an integer field says.

The field has an integer type, possibly under nullable layers, and the path to it crosses no
collection; no literal stands for absent values. Then the literal has to spell a number in the range
of the type once it is trimmed, and any other is refused as it was given, with the name of the type.
On a record of the schema whose field holds the number `k`, the condition holds exactly if `k`
stands in the relation of the operator to the number that the literal spells. -/
theorem integers_compared (catalog : Catalog ι) (options : CompileOptions) (root : Schema ι)
    (expr : PathExpr) (path : PropertyPath ι) (type : IntegerType) (operator : Operator)
    (text : Text) (resolved : PropertyPath.resolve catalog root expr = .ok path)
    (direct : path.quantifier = none) (ends : path.terminal.underlying = .scalar (.integer type))
    (noNull : options.nullLiteral = none) (compares : operator.isTextual = false) :
    ((∃ condition, compile catalog options path operator text = .ok condition) ↔
      ∃ n, type.Spells text.trim n ∧ type.low ≤ n ∧ n ≤ type.high) ∧
    ((¬∃ n, type.Spells text.trim n ∧ type.low ≤ n ∧ n ≤ type.high) →
      compile catalog options path operator text = .error (.invalidLiteral text type.name)) ∧
    ∀ condition n, compile catalog options path operator text = .ok condition →
      type.Spells text.trim n → ∀ item k, item.ConformsTo catalog root →
      (item.walk path.indices).value?.bind Value.integer? = some k →
      (condition.evaluate item = true ↔ operator.relatesIntegers k n) := by
  have compiles := compile_integer catalog text noNull compares ends
  refine ⟨⟨?_, ?_⟩, ?_, ?_⟩
  · intro succeeds
    obtain ⟨condition, compiled⟩ := succeeds
    rw [compiles] at compiled
    cases read : type.read? text.trim with
    | none =>
      rw [read] at compiled
      cases compiled
    | some n => exact ⟨n, IntegerType.read?_eq_some_iff.1 read⟩
  · intro spelled
    obtain ⟨n, inRange⟩ := spelled
    rw [compiles, IntegerType.read?_eq_some_iff.2 inRange]
    exact ⟨_, rfl⟩
  · intro unspelled
    have unread : type.read? text.trim = none :=
      Option.eq_none_iff_forall_ne_some.2 fun n read =>
        unspelled ⟨n, IntegerType.read?_eq_some_iff.1 read⟩
    rw [compiles, unread]
  · intro condition n compiled spells item k conforms held
    rw [compiles] at compiled
    cases read : type.read? text.trim with
    | none =>
      rw [read] at compiled
      cases compiled
    | some n' =>
      rw [read] at compiled
      obtain ⟨spells', low, -⟩ := IntegerType.read?_eq_some_iff.1 read
      obtain rfl := spells'.unique spells
      cases compiled
      obtain ⟨ended, natural⟩ := walk_eq_value resolved direct ends conforms held
      rw [evaluate_of_direct direct _ rfl, ended]
      refine test_integer path operator _ fun wide => ⟨natural wide, ?_⟩
      rwa [← IntegerType.low_eq_zero_of_isWide wide]

/-- The greatest number of 64 bits, held by an optional field and spelled with a sign and zeros. One
more is refused. -/
theorem integers_compared_greatest :
    let models := modelsOf Sample.itemType
    let catalog := schemasOf models
    let greatest : FieldType Sample := .nullable (.scalar (.integer .u64))
    let path : PropertyPath Sample :=
      ⟨"Optionals".toList, [⟨"o_u64".toList, 4, greatest⟩], none, greatest⟩
    let item : Item := List.replicate 4 .absent ++ .present (.integer 18446744073709551615) ::
      List.replicate 11 .absent
    let view := (models .optionals).view models item
    let spelled : Text := " +0018446744073709551615 ".toList
    let refused : Text := " +18446744073709551616".toList
    PropertyPath.resolve catalog (catalog .optionals) ⟨["O_U64".toList]⟩ = .ok path ∧
    view.ConformsTo catalog (catalog .optionals) ∧
    (∃ condition, compile catalog {} path .greaterOrEqual spelled = .ok condition ∧
      condition.evaluate view = true) ∧
    compile catalog {} path .greaterOrEqual refused =
      .error (.invalidLiteral refused "u64".toList) := by
  intro models catalog greatest path item view spelled refused
  have resolved : PropertyPath.resolve catalog (catalog .optionals) ⟨["O_U64".toList]⟩ = .ok path :=
    eq_ok_of_toOption (by decide +kernel)
  have fits : Stored.FieldsFit models (models .optionals).fields item :=
    .cons .absent (.cons .absent (.cons .absent (.cons .absent (.cons (.present (.scalar rfl))
      (.cons .absent (.cons .absent (.cons .absent (.cons .absent (.cons .absent (.cons .absent
      (.cons .absent (.cons .absent (.cons .absent (.cons .absent (.cons .absent .nil)))))))))))))))
  have conforms : view.ConformsTo catalog (catalog .optionals) := Model.view_conformsTo fits
  have read : IntegerType.u64.read? spelled.trim = some 18446744073709551615 := by decide +kernel
  have unread : IntegerType.u64.read? refused.trim = none := by decide +kernel
  have inRange := IntegerType.read?_eq_some_iff.1 read
  obtain ⟨compiles, -, compared⟩ := integers_compared catalog {} (catalog .optionals) _ path .u64
    .greaterOrEqual spelled resolved rfl rfl rfl rfl
  obtain ⟨condition, compiled⟩ := compiles.2 ⟨_, inRange⟩
  obtain ⟨-, fails, -⟩ := integers_compared catalog {} (catalog .optionals) _ path .u64
    .greaterOrEqual refused resolved rfl rfl rfl rfl
  refine ⟨resolved, conforms, ⟨condition, compiled, ?_⟩, fails ?_⟩
  · exact (compared condition _ compiled inRange.1 view _ conforms rfl).2 (Int.le_refl _)
  · rintro ⟨n, spelledRefused⟩
    rw [IntegerType.read?_eq_some_iff.2 spelledRefused] at unread
    cases unread

end Condition

end TextQuery
