import TextQuery.Number.Numeral

/-!
JSON values and their compact text. Of numbers only integers are told apart: a number with a
fraction or an exponent is one that no integer field takes.
-/

namespace TextQuery

/-- A JSON value. -/
inductive Json where
  | null
  | bool (b : Bool)
  | integer (n : Int)
  /-- A number that is not written as an integer: `mantissa / 10 ^ places`. -/
  | fraction (mantissa : Int) (places : Nat)
  | string (content : Text)
  | array (elements : List Json)
  | object (members : List (Text × Json))
deriving Repr, Inhabited

namespace Json

/-- One character inside a JSON string. -/
def escapedChar (c : Char) : Text :=
  if c = '"' || c = '\\' then ['\\', c]
  else if c = '\x08' then ['\\', 'b']
  else if c = '\t' then ['\\', 't']
  else if c = '\n' then ['\\', 'n']
  else if c = '\x0c' then ['\\', 'f']
  else if c = '\r' then ['\\', 'r']
  else if c.toNat < 32 then
    ['\\', 'u'] ++ Numeral.padLeft 4 (Nat.toDigits 16 c.toNat)
  else [c]

/-- A JSON string. -/
def stringText (content : Text) : Text :=
  ['"'] ++ content.flatMap escapedChar ++ ['"']

/-- A number with a decimal point. -/
def fractionText (mantissa : Int) (places : Nat) : Text :=
  let digits := Numeral.fixed (places + 1) mantissa.natAbs
  (if mantissa < 0 then ['-'] else []) ++ digits.take (digits.length - places) ++ ['.'] ++
    digits.drop (digits.length - places)

mutual

/-- The compact text of a JSON value. -/
def text : Json → Text
  | null => "null".toList
  | bool b => if b then "true".toList else "false".toList
  | integer n => Numeral.ofInt n
  | fraction mantissa places => fractionText mantissa places
  | string content => stringText content
  | array elements => ['['] ++ Text.join [','] (elementTexts elements) ++ [']']
  | object members => ['\x7b'] ++ Text.join [','] (memberTexts members) ++ ['\x7d']

/-- The texts of elements. -/
def elementTexts : List Json → List Text
  | [] => []
  | element :: elements => element.text :: elementTexts elements

/-- The texts of members. -/
def memberTexts : List (Text × Json) → List Text
  | [] => []
  | (name, value) :: members =>
    (stringText name ++ [':'] ++ value.text) :: memberTexts members

end

/-- The value of a member of an object. -/
def member? (name : Text) : Json → Option Json
  | object members => (members.find? (·.1 = name)).map (·.2)
  | _ => none

theorem sizeOf_member?_lt {name : Text} {json value : Json}
    (h : json.member? name = some value) : sizeOf value < sizeOf json := by
  cases json with
  | object members =>
    cases found : members.find? (·.1 = name) with
    | none => simp [member?, found] at h
    | some pair =>
      have inside := List.sizeOf_lt_of_mem (List.mem_of_find?_eq_some found)
      simp [member?, found] at h
      subst h
      rcases pair with ⟨key, value⟩
      simp only [Prod.mk.sizeOf_spec, object.sizeOf_spec] at inside ⊢
      omega
  | _ => simp [member?] at h

end Json

end TextQuery
