import TextQuery.Proofs.Model.Addressing
import TextQuery.Proofs.Model.FittingData
import TextQuery.Samples.Catalog

/-!
What is seen of stored data. `Stored.SeenAs` says it by the declared type alone, one rule for each
form of type: scalars are seen as what they hold, nullable data as nothing or as what is there,
collections as one view for each element, nested items as one view for each field that is not
skipped. Pointers, which no type mentions, are not seen. Main statement: the view of data that fits
its property is the one that the type asks for, and a variant is seen at the position of its
declaration (`Stored.seen_as_declared`).
-/

namespace TextQuery

variable {ι : Type}

/-! ## The rules -/

namespace Stored

mutual

/-- Stored data is seen as a view, under a declared type. -/
inductive SeenAs (models : ι → Model (Property ι)) : FieldType ι → Stored → View → Prop
  | bool {b : Bool} : SeenAs models (.scalar .bool) (.bool b) (.value (.bool b))
  | char {c : Char} : SeenAs models (.scalar .char) (.char c) (.value (.char c))
  /-- Integers of most types are seen as signed ones of 64 bits. -/
  | signed {type : IntegerType} {n : Int} : type.isWide = false →
    -9223372036854775808 ≤ n → n ≤ 9223372036854775807 →
    SeenAs models (.scalar (.integer type)) (.integer n) (.value (.signed n))
  /-- Integers of the widest unsigned types are seen as unsigned ones of 64 bits. -/
  | unsigned {type : IntegerType} {n : Nat} : type.isWide = true →
    n ≤ 18446744073709551615 →
    SeenAs models (.scalar (.integer type)) (.integer n) (.value (.unsigned n))
  | float {type : FloatType} {x : Double} :
    SeenAs models (.scalar (.float type)) (.float x) (.value (.float x))
  | string {content : Text} :
    SeenAs models (.scalar .string) (.string content) (.value (.string content))
  | date {day : Date} : SeenAs models (.scalar .date) (.date day) (.value (.date day))
  | dateTime {moment : DateTime} :
    SeenAs models (.scalar .dateTime) (.dateTime moment) (.value (.dateTime moment))
  | timestamp {instant : Timestamp} :
    SeenAs models (.scalar .timestamp) (.timestamp instant) (.value (.timestamp instant))
  | guid {id : Guid} : SeenAs models (.scalar .guid) (.guid id) (.value (.guid id))
  /-- A member is seen at the first position of its name. -/
  | member {enumeration : EnumSchema} {ordinal : Nat} {name : Text} :
    enumeration.members[ordinal]? = some name →
    (∀ earlier, earlier < ordinal → enumeration.members[earlier]? ≠ some name) →
    SeenAs models (.enum enumeration) (.member name) (.value (.member ordinal name))
  | absent {inner : FieldType ι} : SeenAs models (.nullable inner) .absent .null
  | present {inner : FieldType ι} {data : Stored} {view : View} :
    SeenAs models inner data view → SeenAs models (.nullable inner) (.present data) view
  | pointer {type : FieldType ι} {data : Stored} {view : View} :
    SeenAs models type data view → SeenAs models type (.pointer data) view
  | elements {element : FieldType ι} {all : List Stored} {views : List View} :
    AllSeenAs models element all views →
    SeenAs models (.collection element) (.elements all) (.list views)
  | nested {model : ι} {item : List Stored} {views : List View} :
    FieldsSeenAs models (models model).fields item views →
    SeenAs models (.object model) (.fields item) (.record views)

/-- The elements of a collection are seen as views, each as one. -/
inductive AllSeenAs (models : ι → Model (Property ι)) :
    FieldType ι → List Stored → List View → Prop
  | nil {element : FieldType ι} : AllSeenAs models element [] []
  | cons {element : FieldType ι} {data : Stored} {more : List Stored} {view : View}
    {views : List View} :
    SeenAs models element data view → AllSeenAs models element more views →
    AllSeenAs models element (data :: more) (view :: views)

/-- The fields of an item are seen as views, each as one unless it is skipped. -/
inductive FieldsSeenAs (models : ι → Model (Property ι)) :
    List (Field (Property ι)) → List Stored → List View → Prop
  | nil : FieldsSeenAs models [] [] []
  | skipped {field : Field (Property ι)} {fields : List (Field (Property ι))} {data : Stored}
    {more : List Stored} {views : List View} :
    field.skipped = true → FieldsSeenAs models fields more views →
    FieldsSeenAs models (field :: fields) (data :: more) views
  | seen {field : Field (Property ι)} {fields : List (Field (Property ι))} {data : Stored}
    {more : List Stored} {view : View} {views : List View} :
    field.skipped = false → SeenAs models field.type.fieldType data view →
    FieldsSeenAs models fields more views →
    FieldsSeenAs models (field :: fields) (data :: more) (view :: views)

end

end Stored

/-! ## Scalars and members -/

theorem IntegerType.narrow_bounds {type : IntegerType} (narrow : type.isWide = false) :
    -9223372036854775808 ≤ type.low ∧ type.high ≤ 9223372036854775807 := by
  cases type <;> first | decide | cases narrow

theorem IntegerType.wide_bounds {type : IntegerType} (wide : type.isWide = true) :
    0 ≤ type.low ∧ type.high ≤ 18446744073709551615 := by
  cases type <;> first | decide | cases wide

/-- The view of a member has the first position of its name. -/
theorem EnumSchema.view_eq_iff {enumeration : EnumSchema} {ordinal : Nat} {name : Text} :
    enumeration.view name = .value (.member ordinal name) ↔
      enumeration.members[ordinal]? = some name ∧
        ∀ earlier, earlier < ordinal → enumeration.members[earlier]? ≠ some name := by
  have found : enumeration.view name = .value (.member ordinal name) ↔
      enumeration.members.findIdx? (· = name) = some ordinal := by
    unfold view
    split
    · rename_i first found
      rw [found, Option.some_inj]
      refine ⟨?_, ?_⟩
      · rintro ⟨⟩
        rfl
      · rintro rfl
        rfl
    · rename_i missing
      rw [missing]
      exact iff_of_false nofun nofun
  rw [found, List.findIdx?_eq_some_iff_getElem]
  simp only [decide_eq_true_iff]
  refine ⟨?_, ?_⟩
  · rintro ⟨within, same, others⟩
    refine ⟨List.getElem?_eq_some_iff.2 ⟨within, same⟩, fun earlier before held => ?_⟩
    obtain ⟨_, same⟩ := List.getElem?_eq_some_iff.1 held
    exact others earlier before same
  · rintro ⟨held, others⟩
    obtain ⟨within, same⟩ := List.getElem?_eq_some_iff.1 held
    exact ⟨within, same, fun earlier before same =>
      others earlier before (List.getElem?_eq_some_iff.2 ⟨_, same⟩)⟩

namespace Stored

variable {models : ι → Model (Property ι)}

theorem seenAs_scalar {type : ScalarType} {data : Stored} (fits : type.fits data = true) :
    SeenAs models (.scalar type) data (type.view data) := by
  unfold ScalarType.fits at fits
  split at fits
  · exact .bool
  · exact .char
  · rename_i type n
    obtain ⟨above, below⟩ := Bool.and_eq_true_iff.1 fits
    have above : type.low ≤ n := of_decide_eq_true above
    have below : n ≤ type.high := of_decide_eq_true below
    change SeenAs models _ _ (.value (if type.isWide then .unsigned n.toNat else .signed n))
    cases wide : type.isWide with
    | false =>
      obtain ⟨least, greatest⟩ := IntegerType.narrow_bounds wide
      exact .signed wide (Int.le_trans least above) (Int.le_trans below greatest)
    | true =>
      obtain ⟨least, greatest⟩ := IntegerType.wide_bounds wide
      obtain ⟨m, rfl⟩ := Int.eq_ofNat_of_zero_le (Int.le_trans least above)
      exact .unsigned wide (Int.ofNat_le.1 (Int.le_trans below greatest))
  · exact .float
  · exact .string
  · exact .date
  · exact .dateTime
  · exact .timestamp
  · exact .guid
  · cases fits

theorem allSeenAs_of_forall {property : Property ι} {all : List Stored}
    (each : ∀ data ∈ all, SeenAs models property.fieldType data (data.view models property)) :
    AllSeenAs models property.fieldType all (views models property all) := by
  induction all with
  | nil => exact .nil
  | cons data more ih =>
    obtain ⟨first, more⟩ := List.forall_mem_cons.1 each
    exact .cons first (ih more)

/-! ## All data -/

mutual

/-- The view of fitting data is what its declared type asks for. -/
theorem Fits.seenAs {property : Property ι} {data : Stored} (fits : Fits models property data) :
    SeenAs models property.fieldType data (data.view models property) := by
  cases fits with
  | @scalar type _ scalar =>
    have view : data.view models (.scalar type) = type.view data := by cases data <;> rfl
    rw [view]
    exact seenAs_scalar scalar
  | @member enumeration name member =>
    obtain ⟨ordinal, seen, -⟩ := EnumSchema.view_of_mem member
    obtain ⟨held, others⟩ := EnumSchema.view_eq_iff.1 seen
    rw [Stored.view, seen]
    exact .member held others
  | absent => exact .absent
  | present inner => exact .present inner.seenAs
  | pointer inner => exact .pointer inner.seenAs
  | elements each =>
    exact .elements (allSeenAs_of_forall fun data within => (each data within).seenAs)
  | nested fields => exact .nested fields.seenAs

/-- The views of a fitting item are those that the declared types of its fields ask for. -/
theorem FieldsFit.seenAs {fields : List (Field (Property ι))} {item : List Stored}
    (fits : FieldsFit models fields item) :
    FieldsSeenAs models fields item (fieldViews models fields item) := by
  cases fits with
  | nil => exact .nil
  | @cons field _ _ _ first more =>
    rw [fieldViews]
    cases hidden : field.skipped with
    | true => exact .skipped hidden more.seenAs
    | false => exact .seen hidden first.seenAs more.seenAs

end

end Stored

/-! ## Declared enumerations -/

/-- Of variants with different names, each is seen at the position of its declaration. -/
theorem Declaration.view_variant {τ : Type} {declaration : Declaration τ}
    {enumeration : EnumSchema} (accepted : declaration.enumeration = .ok enumeration)
    (distinct : (declaration.variants.map (·.name)).Nodup) {position : Nat} {variant : Variant}
    (declared : declaration.variants[position]? = some variant) :
    enumeration.members[position]? = some variant.name ∧
      enumeration.view variant.name = .value (.member position variant.name) := by
  have held : enumeration.members[position]? = some variant.name := by
    rw [members_of_accepted accepted, List.getElem?_map, declared]
    rfl
  rw [← members_of_accepted accepted, List.nodup_iff_getElem?_ne_getElem?] at distinct
  refine ⟨held, EnumSchema.view_eq_iff.2 ⟨held, fun earlier before same => ?_⟩⟩
  have within := (List.getElem?_eq_some_iff.1 held).1
  exact distinct earlier position before within (same.trans held.symm)

/-! ## What is seen -/

/-- The view of data that fits its property is of the declared type and shows the data as this type
asks for: through any number of nullable layers, pointers and collections, and through nested models
that may refer to each other. A variant of a declared enumeration is seen at the position of its
declaration, whatever numbers are given to variants. -/
theorem Stored.seen_as_declared (models : ι → Model (Property ι)) :
    (∀ (property : Property ι) (data : Stored), Fits models property data →
      View.Conforms (schemasOf models) property.fieldType (data.view models property) ∧
        SeenAs models property.fieldType data (data.view models property)) ∧
    (∀ (declaration : Declaration (Property ι)) (enumeration : EnumSchema),
      declaration.enumeration = .ok enumeration → (declaration.variants.map (·.name)).Nodup →
      ∀ (position : Nat) (variant : Variant), declaration.variants[position]? = some variant →
        Fits models (.member enumeration) (.member variant.name) ∧
        (Stored.member variant.name).view models (.member enumeration) =
          .value (.member position variant.name) ∧
        enumeration.members[position]? = some variant.name) := by
  refine ⟨fun property data fits => ⟨fits.view_conforms, fits.seenAs⟩, ?_⟩
  intro declaration enumeration accepted distinct position variant declared
  obtain ⟨held, seen⟩ := Declaration.view_variant accepted distinct declared
  exact ⟨.member (List.mem_of_getElem? held), by rw [Stored.view, seen], held⟩

/-- Plans, whose numbers do not follow the order of their declaration. -/
def Sample.plans : Declaration (Property Sample) :=
  { name := "Plan".toList
    kind := .enum
    generics := []
    fields := []
    variants :=
      [ ⟨"Free".toList, true, some 10⟩, ⟨"Pro".toList, true, some (-1)⟩,
        ⟨"Team".toList, true, none⟩ ] }

/-- A node behind a pointer that is there, with a node of the least number below it; the greatest
unsigned number among absent ones; and the second of the plans. -/
theorem Stored.seen_as_declared_nested :
    let models := modelsOf Sample.itemType
    let below : Stored := .fields [.integer (-2147483648), .string [], .absent, .elements []]
    SeenAs models (.nullable (.object .node))
      (.present (.pointer (.fields [.integer 1, .string [], .absent, .elements [below]])))
      (.record [.value (.signed 1), .value (.string []), .null,
        .list [.record [.value (.signed (-2147483648)), .value (.string []), .null, .list []]]]) ∧
    SeenAs models (.collection (.nullable (.nullable (.scalar (.integer .u64)))))
      (.elements [.absent, .present .absent, .present (.present (.integer 18446744073709551615))])
      (.list [.null, .null, .value (.unsigned 18446744073709551615)]) ∧
    ∃ enumeration, Sample.plans.enumeration = .ok enumeration ∧
      (Stored.member "Pro".toList).view models (.member enumeration) =
        .value (.member 1 "Pro".toList) := by
  intro models below
  obtain ⟨seen, positions⟩ := seen_as_declared models
  have belowFits : Fits models (.nested .node) below :=
    .nested (.cons (.scalar rfl) (.cons (.scalar rfl) (.cons .absent
      (.cons (.elements (List.forall_mem_nil _)) .nil))))
  have nodeFits : Fits models (.optional (.pointer (.nested .node)))
      (.present (.pointer (.fields [.integer 1, .string [], .absent, .elements [below]]))) :=
    .present (.pointer (.nested (.cons (.scalar rfl) (.cons (.scalar rfl) (.cons .absent
      (.cons (.elements (List.forall_mem_singleton.2 belowFits)) .nil))))))
  have numbersFit :
      Fits models (.collection .sequence (.optional (.optional (.scalar (.integer .u64)))))
        (.elements
          [.absent, .present .absent, .present (.present (.integer 18446744073709551615))]) :=
    .elements (List.forall_mem_cons.2 ⟨.absent, List.forall_mem_cons.2
      ⟨.present .absent, List.forall_mem_singleton.2 (.present (.present (.scalar rfl)))⟩⟩)
  refine ⟨(seen _ _ nodeFits).2, (seen _ _ numbersFit).2, _, rfl, ?_⟩
  exact (positions Sample.plans _ rfl (by decide) 1 ⟨"Pro".toList, true, some (-1)⟩ rfl).2.1

end TextQuery
