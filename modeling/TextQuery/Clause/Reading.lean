import TextQuery.Clause.Detection
import TextQuery.Clause.Grammar

/-!
Reading query texts. A filter is a list of clauses, an order is a path with a possible direction,
and a selection is a list of names. Blank texts ask for nothing. Steps of paths and selected names
are trimmed; literals are kept as they are.
-/

namespace TextQuery

/-- The texts that tokens of one rule took. -/
def Token.textsOf (rule : Rule) (tokens : List Token) : List Text :=
  (tokens.filter (·.rule = rule)).map (·.text)

/-- The tokens of a whole text, which is outside the grammar if it has none. -/
def Rule.scan (rule : Rule) (text : Text) : Except ParseError (List Token) :=
  match rule.tokens? text with
  | some tokens => .ok tokens
  | none => .error (.outsideGrammar text)

/-- The path with the given segments, unless one of them is blank. -/
def PathExpr.ofSegments? (segments : List Text) : Option PathExpr :=
  if segments.all (!·.isBlank) then some ⟨segments.map Text.trim⟩ else none

/-- Reads a dotted path. -/
def PathExpr.read (text : Text) : Except ParseError PathExpr :=
  match Rule.pathOnly.tokens? text.trim with
  | some tokens =>
    match ofSegments? (Token.textsOf .segment tokens) with
    | some path => .ok path
    | none => .error (.malformedPath text)
  | none => .error (.malformedPath text)

namespace Clause

/-- Reads one clause. -/
def read (text : Text) : Except ParseError Clause := do
  let detected ← Detected.ofClause text
  let path ← PathExpr.read detected.left
  let tokens ← Rule.alternatives.scan detected.right
  return ⟨path, detected.operator, Token.textsOf .alternative tokens⟩

/-- Reads the clauses of a filter. -/
def readAll (text : Text) : Except ParseError (List Clause) := do
  if text.isBlank then
    return []
  let tokens ← Rule.filter.scan text
  (Token.textsOf .clause tokens).mapM read

end Clause

/-- Reads a direction that an ordering gives. -/
def Direction.readGiven (text : Text) : Except ParseError Direction :=
  match read? text with
  | some direction => .ok direction
  | none => .error (.invalidDirection text)

/-- Reads an ordering; a blank text has none. -/
def OrderBy.read (text : Text) : Except ParseError (Option OrderBy) :=
  if text.isBlank then .ok none
  else
    match Rule.order.tokens? text with
    | none => .error (.malformedPath text.trim)
    | some tokens =>
      match PathExpr.ofSegments? (Token.textsOf .segment tokens) with
      | none => .error (.malformedPath text.trim)
      | some path => do
        let directions ← (Token.textsOf .direction tokens).mapM Direction.readGiven
        return some ⟨path, directions.head?⟩

/-- Reads the names of a selection. -/
def readSelection (text : Text) : Except ParseError (List Text) := do
  if text.isBlank then
    return []
  let tokens ← Rule.select.scan text
  return ((Token.textsOf .fieldName tokens).map Text.trim).filter (· ≠ [])

end TextQuery
