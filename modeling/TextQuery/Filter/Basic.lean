import TextQuery.Clause.Reading
import TextQuery.Filter.Expression

/-!
Filters: the expression that a filter text stands for. Clauses are taken from left to right. The
first literal of a clause is combined by *and* with all that came before, and each further literal
by *or* with all that came before it, the earlier clauses included.
-/

namespace TextQuery

variable {ι : Type}

/-- A filter: an expression, or none for the filter that keeps every item. -/
structure Filter (ι : Type) where
  expression : Option (Expression ι)
deriving DecidableEq, Repr

namespace Expression

/-- Adds a condition to what came before; `first` says that it begins a clause. -/
def extend (first : Bool) (before : Option (Expression ι)) (c : Condition ι) : Expression ι :=
  match before with
  | none => condition c
  | some before => if first then and before (condition c) else or before (condition c)

/-- Adds the conditions of one clause. -/
def extendClause (before : Option (Expression ι)) : List (Condition ι) → Option (Expression ι)
  | [] => before
  | c :: more => more.foldl (fun all next => some (extend false all next)) (extend true before c)

/-- The expression of the conditions of several clauses. -/
def ofClauses (clauses : List (List (Condition ι))) : Option (Expression ι) :=
  clauses.foldl extendClause none

end Expression

/-- Compiles the literals of one clause, in order. -/
def Clause.compile (catalog : Catalog ι) (options : CompileOptions) (root : Schema ι)
    (clause : Clause) : Except CompileError (List (Condition ι)) := do
  let path ← PropertyPath.resolve catalog root clause.path
  clause.values.mapM (Condition.compile catalog options path clause.operator)

namespace Filter

/-- The filter that keeps every item. -/
def all : Filter ι :=
  ⟨none⟩

/-- Compiles a filter text for items with the schema `root`. -/
def compile (catalog : Catalog ι) (options : CompileOptions) (root : Schema ι) (text : Text) :
    Except CompileError (Filter ι) := do
  let clauses ← (Clause.readAll text).mapError CompileError.parse
  let conditions ← clauses.mapM (Clause.compile catalog options root)
  return ⟨Expression.ofClauses conditions⟩

/-- Whether the filter keeps every item. -/
def isMatchAll (filter : Filter ι) : Bool :=
  filter.expression.isNone

/-- Whether the filter keeps an item. -/
def holds (filter : Filter ι) (item : View) : Bool :=
  filter.expression.all (·.evaluate item)

/-- The items that the filter keeps, in their order; `view` shows an item to the filter. -/
def apply {α : Type} (filter : Filter ι) (view : α → View) (items : List α) : List α :=
  items.filter fun item => filter.holds (view item)

/-- The text of a filter. -/
def display (filter : Filter ι) : Text :=
  match filter.expression with
  | some expression => expression.display
  | none => "TRUE".toList

end Filter

end TextQuery
