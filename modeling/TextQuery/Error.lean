import TextQuery.Text.Quoted

/-!
Why a query text is refused. `ParseError` covers texts that say nothing, `CompileError` also those
that do not fit the schema they are read for. Every error has a message and the text that caused
it, and all of them are mistakes of the text's author.
-/

namespace TextQuery

/-- A text that does not follow the grammar. -/
inductive ParseError where
  /-- No operator, or no single one, is in the clause. -/
  | malformedClause (clause : Text)
  /-- The text is not a dotted path. -/
  | malformedPath (path : Text)
  /-- The text names no direction. -/
  | invalidDirection (direction : Text)
  /-- The text is outside the grammar altogether. -/
  | outsideGrammar (text : Text)
deriving DecidableEq, Repr

namespace ParseError

/-- The message for the author of the text. -/
def message : ParseError → Text
  | malformedClause clause =>
    "malformed clause: ".toList ++ clause.quote ++ " contains no recognised operator".toList
  | malformedPath path => "malformed property path: ".toList ++ path.quote
  | invalidDirection direction =>
    "invalid order direction ".toList ++ direction.quote ++ ", expected Asc or Desc".toList
  | outsideGrammar text => "syntax error: ".toList ++ text

/-- The text that caused the error. -/
def offendingText : ParseError → Text
  | malformedClause text => text
  | malformedPath text => text
  | invalidDirection text => text
  | outsideGrammar text => text

end ParseError

/-- What is wrong with a path whose steps all exist. -/
inductive PathFault where
  | severalCollections
  | crossesCollection
  | endsInNoScalar
deriving DecidableEq, Repr

/-- The fault in words. -/
def PathFault.reason : PathFault → Text
  | severalCollections => "more than one collection hop".toList
  | crossesCollection => "path crosses a collection".toList
  | endsInNoScalar => "path does not end in a scalar".toList

/-- A text that does not fit its schema, or does not follow the grammar. -/
inductive CompileError where
  | propertyNotFound (name root : Text)
  | unsupportedPath (path : Text) (fault : PathFault)
  | invalidLiteral (text target : Text)
  | invalidEnumValue (text enumeration : Text)
  | invalidGuid (text : Text)
  | parse (error : ParseError)
deriving DecidableEq, Repr

namespace CompileError

/-- The message for the author of the text. -/
def message : CompileError → Text
  | propertyNotFound name root =>
    "property ".toList ++ name ++ " was not found on ".toList ++ root
  | unsupportedPath path fault =>
    "unsupported path ".toList ++ path ++ ": ".toList ++ fault.reason
  | invalidLiteral text target =>
    "invalid literal ".toList ++ text.quote ++ " for type ".toList ++ target
  | invalidEnumValue text enumeration =>
    text.quote ++ " is not a member of enum ".toList ++ enumeration
  | invalidGuid text => "invalid GUID ".toList ++ text.quote
  | parse error => error.message

/-- The text or name that caused the error. -/
def offendingText : CompileError → Text
  | propertyNotFound name _ => name
  | unsupportedPath path _ => path
  | invalidLiteral text _ => text
  | invalidEnumValue text _ => text
  | invalidGuid text => text
  | parse error => error.offendingText

/-- Whether the error is a mistake of the text's author. It always is: nothing else can make a
compilation fail. -/
def isClientError (_ : CompileError) : Bool :=
  true

end CompileError

end TextQuery
