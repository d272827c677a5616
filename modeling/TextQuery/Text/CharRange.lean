/-!
Ranges of characters by code point, the form in which the property tables of this library are
written. `CharRange.contains` tests a character, and `CaseRun.shift?` moves a character of a run to
its partner.
-/

namespace TextQuery.Text

/-- The characters from code point `first` to code point `last`, both included. -/
structure CharRange where
  first : Nat
  last : Nat
deriving DecidableEq, Repr

/-- Whether the range holds `c`. -/
def CharRange.contains (range : CharRange) (c : Char) : Bool :=
  range.first ≤ c.toNat && c.toNat ≤ range.last

/-- Whether one of `ranges` holds `c`. -/
def inRanges (ranges : List CharRange) (c : Char) : Bool :=
  ranges.any (·.contains c)

/-- Every `step`-th character from `first` to `last`; the partner of each lies `offset` code points
further on. -/
structure CaseRun where
  first : Nat
  last : Nat
  step : Nat
  offset : Int
deriving DecidableEq, Repr

/-- The partner of `c`, if `c` belongs to the run. -/
def CaseRun.shift? (run : CaseRun) (c : Char) : Option Char :=
  if run.first ≤ c.toNat ∧ c.toNat ≤ run.last ∧ (c.toNat - run.first) % run.step = 0 then
    some (Char.ofNat (c.toNat + run.offset).toNat)
  else
    none

end TextQuery.Text
