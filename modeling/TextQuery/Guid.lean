import TextQuery.Number.Numeral

/-!
GUIDs: numbers of 128 bits written as 32 hexadecimal digits. They are written in lower case with
hyphens between groups of 8, 4, 4, 4 and 12 digits; they are read in that form, without hyphens,
in braces, or behind `urn:uuid:`, in either case.
-/

namespace TextQuery

/-- A GUID. -/
structure Guid where
  number : Fin (Nat.pow 2 128)
deriving DecidableEq, Repr

namespace Guid

/-- GUIDs are ordered as their digits are. -/
instance : Ord Guid where
  compare left right := compare left.number right.number

/-- The GUID whose digits are all zero. -/
def nil : Guid :=
  ⟨0⟩

/-- The lengths of the groups of digits. -/
def groupLengths : List Nat :=
  [8, 4, 4, 4, 12]

/-- The runs of `digits` with the given lengths. -/
def groups : List Nat → Text → List Text
  | [], _ => []
  | length :: lengths, digits => digits.take length :: groups lengths (digits.drop length)

/-- The written form of a GUID. -/
def text (guid : Guid) : Text :=
  Text.join ['-'] (groups groupLengths (Numeral.padLeft 32 (Nat.toDigits 16 guid.number)))

/-- The number that a hexadecimal digit stands for, in either case. -/
def hexDigit? (c : Char) : Option Nat :=
  if '0' ≤ c ∧ c ≤ '9' then some (c.toNat - '0'.toNat)
  else if 'a' ≤ c ∧ c ≤ 'f' then some (c.toNat - 'a'.toNat + 10)
  else if 'A' ≤ c ∧ c ≤ 'F' then some (c.toNat - 'A'.toNat + 10)
  else none

/-- The GUID with the given 32 digits. -/
def ofDigits? (digits : Text) : Option Guid := do
  guard (digits.length = 32)
  let values ← digits.mapM hexDigit?
  let number := values.foldl (fun total digit => 16 * total + digit) 0
  if h : number < Nat.pow 2 128 then some ⟨⟨number, h⟩⟩ else none

/-- Reads groups of digits of the given lengths with hyphens between them. -/
def readGroups? (lengths : List Nat) (text : Text) : Option Guid :=
  let parts := Text.pieces '-' text
  if parts.map List.length = lengths then ofDigits? parts.flatten else none

/-- Reads a GUID in any of its forms. The mark `urn:uuid:` counts in either case, as it does in
every URN, and so do digits. -/
def read? (text : Text) : Option Guid :=
  match text with
  | '\x7b' :: rest =>
    if rest.getLast? = some '\x7d' then readGroups? groupLengths rest.dropLast else none
  | _ =>
    let scheme := "urn:uuid:".toList
    if Text.eqIgnoreAsciiCase scheme (text.take scheme.length) then
      readGroups? groupLengths (text.drop scheme.length)
    else
      (readGroups? [32] text).or (readGroups? groupLengths text)

end Guid

end TextQuery
