import TextQuery.Text.CharRange

/-!
Texts as lists of characters, and the operations on them that queries are read with: cutting at a
separator, cutting at the first occurrence of a marker, trimming white space, and comparing while
ignoring the case of ASCII letters. Main statements: cutting loses nothing (`join_pieces`,
`eq_of_cutAt?`), and a text is blank exactly if trimming leaves nothing
(`isBlank_iff_trim_eq_nil`).
-/

namespace TextQuery

/-- A text: a list of Unicode characters. -/
abbrev Text := List Char

namespace Text

/-! ## White space -/

/-- The characters with the Unicode property *White_Space*. -/
def whiteSpaceRanges : List CharRange :=
  [ ⟨0x9, 0xD⟩, ⟨0x20, 0x20⟩, ⟨0x85, 0x85⟩, ⟨0xA0, 0xA0⟩, ⟨0x1680, 0x1680⟩, ⟨0x2000, 0x200A⟩,
    ⟨0x2028, 0x2029⟩, ⟨0x202F, 0x202F⟩, ⟨0x205F, 0x205F⟩, ⟨0x3000, 0x3000⟩ ]

/-- Whether `c` is white space. -/
def isWhiteSpace (c : Char) : Bool :=
  inRanges whiteSpaceRanges c

/-- The text without its leading white space. -/
def trimStart (text : Text) : Text :=
  text.dropWhile isWhiteSpace

/-- The text without its trailing white space. -/
def trimEnd (text : Text) : Text :=
  (text.reverse.dropWhile isWhiteSpace).reverse

/-- The text without the white space around it. -/
def trim (text : Text) : Text :=
  trimEnd (trimStart text)

/-- Whether the text holds nothing but white space. -/
def isBlank (text : Text) : Bool :=
  text.all isWhiteSpace

theorem dropWhile_eq_nil_iff {p : Char → Bool} {text : Text} :
    text.dropWhile p = [] ↔ ∀ c ∈ text, p c = true := by
  induction text with
  | nil => simp
  | cons c rest ih => cases h : p c <;> simp [h, ih]

/-- A text is blank exactly if trimming leaves nothing of it. -/
theorem isBlank_iff_trim_eq_nil {text : Text} : isBlank text = true ↔ trim text = [] := by
  have first : ∀ {t : Text} {c : Char} {rest : Text},
      t.dropWhile isWhiteSpace = c :: rest → isWhiteSpace c = false := by
    intro t c rest h
    induction t with
    | nil => simp at h
    | cons d more ih =>
      cases white : isWhiteSpace d
      · simp [white] at h
        exact h.1 ▸ white
      · simp [white] at h
        exact ih h
  have blank : isBlank text = true ↔ trimStart text = [] := by
    rw [trimStart, dropWhile_eq_nil_iff]
    simp [isBlank]
  rw [blank, trim, trimEnd, List.reverse_eq_nil_iff, dropWhile_eq_nil_iff]
  constructor
  · intro nothing
    simp [nothing]
  · intro white
    cases left : trimStart text with
    | nil => rfl
    | cons c rest =>
      have visible := first left
      rw [white c (by simp [left])] at visible
      cases visible

/-! ## Pieces between separators -/

/-- The pieces of `text` between the occurrences of `separator`; a text without it is one piece. -/
def pieces (separator : Char) : Text → List Text
  | [] => [[]]
  | c :: rest =>
    if c = separator then
      [] :: pieces separator rest
    else
      match pieces separator rest with
      | [] => [[c]]
      | piece :: more => (c :: piece) :: more

/-- The parts in order, with `separator` between each two. -/
def join (separator : Text) (parts : List Text) : Text :=
  separator.intercalate parts

@[simp] theorem pieces_ne_nil (separator : Char) (text : Text) : pieces separator text ≠ [] := by
  cases text with
  | nil => simp [pieces]
  | cons c rest =>
    rw [pieces]
    split
    · simp
    · split <;> simp

/-- Joining the pieces gives the text back. -/
theorem join_pieces (separator : Char) (text : Text) :
    join [separator] (pieces separator text) = text := by
  induction text with
  | nil => rfl
  | cons c rest ih =>
    rw [pieces]
    split
    · rename_i h
      subst h
      cases eq : pieces c rest with
      | nil => exact absurd eq (pieces_ne_nil _ _)
      | cons piece more =>
        rw [eq] at ih
        simp [join, List.intercalate, ← ih]
    · cases eq : pieces separator rest with
      | nil => exact absurd eq (pieces_ne_nil _ _)
      | cons piece more =>
        rw [eq] at ih
        cases more <;> simp_all [join, List.intercalate]

/-! ## First occurrence of a marker -/

/-- What follows `lead`, if the text begins with it. -/
def after? : (lead : Text) → Text → Option Text
  | [], text => some text
  | _ :: _, [] => none
  | c :: lead, d :: text => if c = d then after? lead text else none

/-- The text before and after the first occurrence of `marker`. -/
def cutAt? (marker : Text) : Text → Option (Text × Text)
  | [] => (after? marker []).map ([], ·)
  | c :: rest =>
    match after? marker (c :: rest) with
    | some right => some ([], right)
    | none => (cutAt? marker rest).map fun (left, right) => (c :: left, right)

/-- Whether `needle` occurs in `text`, as a run of characters. -/
def contains (text needle : Text) : Bool :=
  (cutAt? needle text).isSome

theorem after?_eq_some_iff {lead text rest : Text} :
    after? lead text = some rest ↔ text = lead ++ rest := by
  induction lead generalizing text with
  | nil => simp [after?, eq_comm]
  | cons c lead ih =>
    cases text with
    | nil => simp [after?]
    | cons d text =>
      rw [after?]
      split
      · rename_i h
        simp [ih, h]
      · rename_i h
        simp [Ne.symm h]

/-- Cutting loses nothing but the marker. -/
theorem eq_of_cutAt? {marker text left right : Text} (h : cutAt? marker text = some (left, right)) :
    text = left ++ marker ++ right := by
  induction text generalizing left with
  | nil =>
    cases found : after? marker [] with
    | none => simp [cutAt?, found] at h
    | some rest =>
      simp [cutAt?, found] at h
      obtain ⟨rfl, rfl⟩ := h
      simpa using after?_eq_some_iff.1 found
  | cons c rest ih =>
    rw [cutAt?] at h
    split at h
    · rename_i right' found
      cases h
      simpa using after?_eq_some_iff.1 found
    · cases inner : cutAt? marker rest with
      | none => simp [inner] at h
      | some pair =>
        obtain ⟨left', right'⟩ := pair
        simp [inner] at h
        obtain ⟨rfl, rfl⟩ := h
        simp [ih inner]

/-! ## Case of ASCII letters -/

/-- Whether the text holds ASCII characters only. -/
def isAscii (text : Text) : Bool :=
  text.all fun c => c.toNat < 128

/-- Equality up to the case of the letters `A` to `Z`. -/
def eqIgnoreAsciiCase (left right : Text) : Bool :=
  left.map Char.toLower = right.map Char.toLower

end Text

end TextQuery
