import TextQuery.Filter.Basic
import TextQuery.Order
import TextQuery.Projection

/-!
Queries: filter, order and projection together. Items are filtered, then sorted, then projected, so
that conditions and keys see the whole items.
-/

namespace TextQuery

variable {ι : Type}

/-- The texts of a query. A filter can also come under the name `query`. -/
structure QueryParams where
  filter : Option Text := none
  query : Option Text := none
  order : Option Text := none
  select : Option Text := none
deriving DecidableEq, Repr

namespace QueryParams

/-- The text of the filter: `filter`, or else `query`. -/
def filterText? (params : QueryParams) : Option Text :=
  params.filter.or params.query

/-- The parameters with another filter. -/
def withFilter (params : QueryParams) (text : Text) : QueryParams :=
  { params with filter := some text }

/-- The parameters with another order. -/
def withOrder (params : QueryParams) (text : Text) : QueryParams :=
  { params with order := some text }

/-- The parameters with another selection. -/
def withSelect (params : QueryParams) (text : Text) : QueryParams :=
  { params with select := some text }

end QueryParams

/-- A compiled query. -/
structure Query (ι : Type) where
  filter : Filter ι
  order : Option (Order ι)
  select : Option Projection
deriving DecidableEq, Repr

namespace Query

/-- Compiles the texts that are there: first the filter, then the order, then the selection. -/
def compile (catalog : Catalog ι) (options : CompileOptions) (root : Schema ι)
    (params : QueryParams) : Except CompileError (Query ι) := do
  let filter ←
    match params.filterText? with
    | some text => Filter.compile catalog options root text
    | none => pure Filter.all
  let order ←
    match params.order with
    | some text => Order.compile catalog options root text
    | none => pure none
  let select ←
    match params.select with
    | some text => Projection.compile root text
    | none => pure none
  return ⟨filter, order, select⟩

/-- The items that match, in order, without projection. -/
def matching {α : Type} (query : Query ι) (view : α → View) (items : List α) : List α :=
  let kept := query.filter.apply view items
  match query.order with
  | some order => order.sortByKeys view kept
  | none => kept

/-- The answer to a query: the items that match, in order, each projected. -/
def apply {α : Type} (query : Query ι) (view : α → View) (copy : α → α → Nat → α) (default : α)
    (items : List α) : List α :=
  let kept := query.matching view items
  match query.select with
  | some projection => kept.map (projection.apply copy default)
  | none => kept

end Query

end TextQuery
