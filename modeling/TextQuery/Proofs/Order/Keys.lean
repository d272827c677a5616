import TextQuery.Order

/-!
Keys of orders. Every value has a sort code: its kind, and after it what its content is compared by,
as integers that are read from the left. Values that are no NaN are compared as their sort codes are
(`Value.compare?_eq_some`), so keys are, and an absent key has the empty code. An order is thus a
comparison of lists of integers, forwards or backwards, and a lawful one (`Order.transCmp_compare`).
Equality of values agrees with their order (`Value.equal_iff_compare?`).
-/

namespace TextQuery

variable {ι : Type}

/-! ## Sort codes -/

/-- What dates are compared by. -/
def Date.sortCode (day : Date) : List Int :=
  [day.year, day.month, day.day]

/-- What dates with a time are compared by. -/
def DateTime.sortCode (moment : DateTime) : List Int :=
  moment.date.sortCode ++ [(moment.time.second.val : Int), (moment.time.nano.val : Int)]

/-- What texts are compared by: the code points of their characters. -/
def Text.sortCode (text : Text) : List Int :=
  text.map fun c => (c.toNat : Int)

namespace Value

/-- What the content of a value is compared by, among values of one kind. -/
def contentCode : Value → List Int
  | bool b => [(b.toNat : Int)]
  | char c => [(c.toNat : Int)]
  | signed n => [n]
  | unsigned n => [(n : Int)]
  | float x => x.rank?.toList
  | string content => content.sortCode
  | date day => day.sortCode
  | dateTime moment => moment.sortCode
  | timestamp instant => instant.utc.sortCode
  | guid id => [(id.number.val : Int)]
  | member ordinal name => (ordinal : Int) :: name.sortCode

/-- What values are compared by. -/
def sortCode (value : Value) : List Int :=
  (value.kind : Int) :: value.contentCode

end Value

/-! ## Comparing by sort codes -/

theorem compare_natCast (a b : Nat) : compare (a : Int) (b : Int) = compare a b := by
  simp [Int.compare_eq_ite_lt, Nat.compare_eq_ite_lt]

theorem compare_singleton (a b : Int) : compare [a] [b] = compare a b := by
  rw [List.compare_cons_cons, List.compare_nil_nil, Ordering.then_eq]

theorem compare_toNat (a b : Char) : compare (a.toNat : Int) (b.toNat : Int) = compare a b := by
  have less : a < b ↔ a.toNat < b.toNat := Iff.rfl
  have same : a = b ↔ a.toNat = b.toNat := Char.toNat_inj.symm
  rw [compare_natCast]
  change compareOfLessAndEq a.toNat b.toNat = compareOfLessAndEq a b
  simp only [compareOfLessAndEq, less, same]

theorem Text.compare_sortCode (left right : Text) :
    compare left.sortCode right.sortCode = compare left right := by
  induction left generalizing right with
  | nil => cases right <;> rfl
  | cons c rest ih =>
    cases right with
    | nil => rfl
    | cons d more =>
      unfold sortCode at ih ⊢
      rw [List.map_cons, List.map_cons, List.compare_cons_cons, List.compare_cons_cons,
        compare_toNat, ih]

theorem Text.sortCode_injective {left right : Text} (same : left.sortCode = right.sortCode) :
    left = right :=
  (List.map_inj_right fun _ _ codes => Char.toNat_inj.1 (Int.ofNat.inj codes)).1 same

theorem Date.compare_sortCode (left right : Date) :
    compare left.sortCode right.sortCode = compare left right := by
  simp only [sortCode, List.compare_cons_cons, List.compare_nil_nil, compare_natCast,
    Ordering.then_eq]
  rfl

theorem Date.sortCode_injective {left right : Date} (same : left.sortCode = right.sortCode) :
    left = right := by
  obtain ⟨year, month, day, exists_day⟩ := left
  obtain ⟨year', month', day', exists_day'⟩ := right
  simp only [sortCode, List.cons.injEq, Int.natCast_inj, and_true] at same
  obtain ⟨rfl, rfl, rfl⟩ := same
  rfl

theorem DateTime.compare_sortCode (left right : DateTime) :
    compare left.sortCode right.sortCode = compare left right := by
  simp only [sortCode, Date.sortCode, List.cons_append, List.nil_append, List.compare_cons_cons,
    List.compare_nil_nil, compare_natCast, Ordering.then_eq]
  change _ = (compare left.date right.date).then (compare left.time right.time)
  change _ = ((compare left.date.year right.date.year).then
    ((compare left.date.month right.date.month).then (compare left.date.day right.date.day))).then
      ((compare left.time.second right.time.second).then (compare left.time.nano right.time.nano))
  simp only [Ordering.then_assoc]
  rfl

theorem DateTime.sortCode_injective {left right : DateTime}
    (same : left.sortCode = right.sortCode) : left = right := by
  obtain ⟨date, second, nano⟩ := left
  obtain ⟨date', second', nano'⟩ := right
  obtain ⟨dates, times⟩ := List.append_inj same rfl
  simp only [List.cons.injEq, Int.natCast_inj, Fin.val_inj, and_true] at times
  obtain ⟨rfl, rfl⟩ := times
  obtain rfl : date = date' := Date.sortCode_injective dates
  rfl

theorem Double.compare?_eq_some {left right : Double} (leftProper : left.isNaN = false)
    (rightProper : right.isNaN = false) :
    left.compare? right = some (compare left.rank?.toList right.rank?.toList) := by
  cases left with
  | nan => cases leftProper
  | number negative code =>
    cases right with
    | nan => cases rightProper
    | number negative' code' => exact congrArg some (compare_singleton _ _).symm

namespace Value

variable {left right : Value}

/-- Values of different kinds are compared by their kinds alone. -/
theorem compare?_of_kind_ne (different : left.kind ≠ right.kind) :
    left.compare? right = some (compare left.kind right.kind) := by
  cases left <;> cases right <;> first | rfl | exact absurd rfl different

/-- Values of one kind are compared by their contents, if neither is a NaN. -/
theorem compare?_of_kind_eq (same : left.kind = right.kind) (leftProper : left.isNaN = false)
    (rightProper : right.isNaN = false) :
    left.compare? right = some (compare left.contentCode right.contentCode) := by
  cases left <;> cases right <;> cases same
  case bool.bool.refl a b => cases a <;> cases b <;> rfl
  case char.char.refl a b =>
    exact congrArg some ((compare_singleton _ _).trans (compare_toNat a b)).symm
  case signed.signed.refl a b => exact congrArg some (compare_singleton a b).symm
  case unsigned.unsigned.refl a b =>
    exact congrArg some ((compare_singleton _ _).trans (compare_natCast a b)).symm
  case float.float.refl x y => exact Double.compare?_eq_some leftProper rightProper
  case string.string.refl a b => exact congrArg some (Text.compare_sortCode a b).symm
  case date.date.refl a b => exact congrArg some (Date.compare_sortCode a b).symm
  case dateTime.dateTime.refl a b => exact congrArg some (DateTime.compare_sortCode a b).symm
  case timestamp.timestamp.refl a b =>
    exact congrArg some (DateTime.compare_sortCode a.utc b.utc).symm
  case guid.guid.refl a b =>
    exact congrArg some ((compare_singleton _ _).trans (compare_natCast _ _)).symm
  case member.member.refl i a j b =>
    have ordered : compare ((i : Int) :: Text.sortCode a) ((j : Int) :: Text.sortCode b) =
        (compare i j).then (compare a b) := by
      rw [List.compare_cons_cons, compare_natCast, Text.compare_sortCode]
    exact congrArg some ordered.symm

/-- Values that are no NaN are compared as their sort codes are. -/
theorem compare?_eq_some (leftProper : left.isNaN = false) (rightProper : right.isNaN = false) :
    left.compare? right = some (compare left.sortCode right.sortCode) := by
  unfold sortCode
  rw [List.compare_cons_cons, compare_natCast]
  by_cases same : left.kind = right.kind
  · rw [compare?_of_kind_eq same leftProper rightProper, same, Std.ReflOrd.compare_self]
    rfl
  · rw [compare?_of_kind_ne same]
    have unequal : compare left.kind right.kind ≠ .eq := fun equal =>
      same (Std.LawfulEqOrd.eq_of_compare equal)
    cases kinds : compare left.kind right.kind with
    | eq => exact absurd kinds unequal
    | lt => rfl
    | gt => rfl

/-! ### Equality -/

/-- Values of one kind that are no floats are equal if they are compared by the same. -/
theorem eq_of_contentCode (kinds : left.kind = right.kind) (noFloat : ∀ x, left ≠ float x)
    (same : left.contentCode = right.contentCode) : left = right := by
  cases left <;> cases right <;> cases kinds
  case bool.bool.refl a b =>
    cases a <;> cases b <;> first | rfl | cases same
  case char.char.refl a b =>
    simp only [contentCode, List.cons.injEq, Int.natCast_inj, Char.toNat_inj, and_true] at same
    rw [same]
  case signed.signed.refl a b => rw [(List.cons.inj same).1]
  case unsigned.unsigned.refl a b =>
    rw [Int.ofNat.inj (List.cons.inj same).1]
  case float.float.refl x y => exact absurd rfl (noFloat x)
  case string.string.refl a b => rw [Text.sortCode_injective same]
  case date.date.refl a b => rw [Date.sortCode_injective same]
  case dateTime.dateTime.refl a b => rw [DateTime.sortCode_injective same]
  case timestamp.timestamp.refl a b =>
    obtain ⟨a⟩ := a
    obtain ⟨b⟩ := b
    obtain rfl : a = b := DateTime.sortCode_injective same
    rfl
  case guid.guid.refl a b =>
    obtain ⟨a⟩ := a
    obtain ⟨b⟩ := b
    obtain rfl : a = b := Fin.val_inj.1 (Int.ofNat.inj (List.cons.inj same).1)
    rfl
  case member.member.refl i a j b =>
    obtain ⟨ordinals, names⟩ := List.cons.inj same
    rw [Int.ofNat.inj ordinals, Text.sortCode_injective names]

theorem equal_of_noFloat (noFloat : ∀ x, left ≠ float x) :
    left.equal right = true ↔ left = right := by
  cases left with
  | float x => exact absurd rfl (noFloat x)
  | _ =>
    change decide (_ = right) = true ↔ _
    exact decide_eq_true_iff

theorem kind_eq_of_equal (same : left.equal right = true) : left.kind = right.kind := by
  cases left with
  | float x =>
    cases right with
    | float y => rfl
    | _ => simp [equal] at same
  | _ =>
    rw [(equal_of_noFloat (by nofun)).1 same]

theorem equal_iff_of_noFloat (kinds : left.kind = right.kind) (leftProper : left.isNaN = false)
    (rightProper : right.isNaN = false) (noFloat : ∀ x, left ≠ float x) :
    left.equal right = true ↔ left.compare? right = some .eq := by
  rw [equal_of_noFloat noFloat, compare?_of_kind_eq kinds leftProper rightProper, Option.some_inj]
  refine ⟨fun same => same ▸ Std.ReflOrd.compare_self, fun same => ?_⟩
  exact eq_of_contentCode kinds noFloat (Std.LawfulEqOrd.eq_of_compare same)

/-- Values are equal exactly if they are compared as equal. -/
theorem equal_iff_compare? : left.equal right = true ↔ left.compare? right = some .eq := by
  by_cases kinds : left.kind = right.kind
  · cases left <;> cases right <;> cases kinds
    case float.float.refl x y => exact beq_iff_eq
    all_goals exact equal_iff_of_noFloat rfl rfl rfl (by nofun)
  · rw [compare?_of_kind_ne kinds, Option.some_inj]
    refine iff_of_false (fun same => kinds (kind_eq_of_equal same)) fun same => ?_
    exact kinds (Std.LawfulEqOrd.eq_of_compare same)

/-- Values of one kind have an order exactly if neither is a NaN. -/
theorem isSome_compare? (kinds : left.kind = right.kind) :
    (left.compare? right).isSome = (!left.isNaN && !right.isNaN) := by
  cases left <;> cases right <;> cases kinds
  case float.float.refl x y => cases x <;> cases y <;> rfl
  all_goals rfl

end Value

/-! ## Keys -/

/-- What keys are compared by. An absent key has the empty code, which comes before all others. -/
def keyCode (key : Option Value) : List Int :=
  key.elim [] Value.sortCode

theorem compareKeys_eq {left right : Option Value}
    (leftProper : ∀ value ∈ left, value.isNaN = false)
    (rightProper : ∀ value ∈ right, value.isNaN = false) :
    compareKeys left right = compare (keyCode left) (keyCode right) := by
  cases left with
  | none => cases right <;> rfl
  | some value =>
    cases right with
    | none => rfl
    | some value' =>
      rw [compareKeys, Value.compare?_eq_some (leftProper value rfl) (rightProper value' rfl)]
      rfl

namespace Order

theorem isNaN_of_mem_key? {order : Order ι} {item : View} {value : Value}
    (isKey : value ∈ order.key? item) : value.isNaN = false := by
  have kept := (Option.filter_eq_some_iff.1 isKey).2
  simpa using kept

/-- What items are compared by under an order. -/
def sortCode (order : Order ι) (item : View) : List Int :=
  keyCode (order.key? item)

theorem compare_eq (order : Order ι) (left right : View) :
    order.compare left right =
      order.direction.apply (Ord.compare (order.sortCode left) (order.sortCode right)) := by
  unfold compare compareKeys
  rw [compareKeys_eq (fun _ => isNaN_of_mem_key?) (fun _ => isNaN_of_mem_key?)]
  rfl

/-- An order compares items lawfully: the other way around with the opposite result, and
transitively. -/
instance transCmp_compare (order : Order ι) : Std.TransCmp order.compare := by
  cases direction : order.direction with
  | asc =>
    have forwards : order.compare = compareOn order.sortCode := by
      funext left right
      rw [compare_eq, direction]
      rfl
    rw [forwards]
    infer_instance
  | desc =>
    have backwards : order.compare = fun left right => compareOn order.sortCode right left := by
      funext left right
      rw [compare_eq, direction]
      exact Std.OrientedOrd.eq_swap.symm
    rw [backwards]
    infer_instance

/-- Items with one key are equal under the order. -/
theorem compare_of_same_key {order : Order ι} {left right : View}
    (same : order.key? left = order.key? right) : order.compare left right = .eq := by
  have self : order.compare left left = .eq := Std.ReflCmp.compare_self
  unfold compare at self ⊢
  rwa [← same]

end Order

end TextQuery
