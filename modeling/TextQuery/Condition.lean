import TextQuery.Literal
import TextQuery.Path

/-!
Conditions: a resolved path, an operator and a literal. A condition across a collection holds if it
holds of some element, so it never holds of an empty or absent collection. Absent values differ
from every present one, and no order holds between them and anything.
-/

namespace TextQuery

variable {ι : Type}

/-- A condition on one field of an item. -/
structure Condition (ι : Type) where
  path : PropertyPath ι
  operator : Operator
  literal : Literal
deriving DecidableEq, Repr

/-- Equality of possibly absent values: two absent ones are equal. -/
def equalOptions : Option Value → Option Value → Bool
  | some a, some b => a.equal b
  | none, none => true
  | _, _ => false

/-- The order of two possibly absent values; an absent one has none. -/
def compareOptions? (actual expected : Option Value) : Option Ordering := do
  Value.compare? (← actual) (← expected)

/-- Whether a relation holds between a possibly absent value and the value of a literal. -/
def Operator.relates (operator : Operator) (actual expected : Option Value) : Bool :=
  match operator with
  | equals => equalOptions actual expected
  | notEquals => !equalOptions actual expected
  | greaterThan => compareOptions? actual expected = some .gt
  | lessThan => compareOptions? actual expected = some .lt
  | greaterOrEqual => (compareOptions? actual expected).any (·.isGE)
  | lessOrEqual => (compareOptions? actual expected).any (·.isLE)
  | contains => false
  | containsCaseSensitive => false

/-- Whether a possibly absent value contains a needle. -/
def Operator.finds (operator : Operator) (actual : Option Value) (needle : Text) : Bool :=
  match actual, operator with
  | some value, contains => Text.contains value.text.lower needle
  | some value, containsCaseSensitive => Text.contains value.text needle
  | _, _ => false

namespace Condition

/-- Compiles one literal of a clause whose path is resolved. -/
def compile (catalog : Catalog ι) (options : CompileOptions) (path : PropertyPath ι)
    (operator : Operator) (text : Text) : Except CompileError (Condition ι) :=
  (Literal.read catalog options path.terminal operator text).map fun literal =>
    ⟨path, operator, literal⟩

/-- Whether the condition holds of a possibly absent value. -/
def testValue (condition : Condition ι) (actual : Option Value) : Bool :=
  match condition.literal with
  | .needle needle => condition.operator.finds actual needle
  | literal => condition.operator.relates actual literal.value?

/-- Whether the condition holds of what stands at the end of its path. -/
def test (condition : Condition ι) : View → Bool
  | .value value => condition.testValue (some value)
  | .null => condition.testValue none
  | _ => false

/-- Whether the condition holds of an item: of something that its path leads to. -/
def evaluate (condition : Condition ι) (item : View) : Bool :=
  (condition.path.terminals item).any condition.test

/-- The text of a condition. -/
def display (condition : Condition ι) : Text :=
  condition.path.text ++ [' '] ++ condition.operator.marker ++ [' '] ++ condition.literal.display

end Condition

end TextQuery
