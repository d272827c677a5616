import TextQuery.Model.Lexeme

/-!
Attributes of declared fields. An attribute is a path of words, possibly followed by arguments
between delimiters, or by `=` and a value; `Attribute.ofText` reads it. Only the attribute `model`
has a meaning here: with the one argument `skip` it hides its field from queries, and anything else
in it is an error. `Attribute.isSkip` is what one attribute says about its field.
-/

namespace TextQuery

/-- What follows the path of an attribute. -/
inductive AttributeBody where
  | nothing
  /-- The sign `=` and a value. -/
  | assignment
  /-- The tokens between delimiters. -/
  | arguments (tokens : List Lexeme)
deriving DecidableEq, Repr

/-- An attribute: the words of its path, an empty one for a leading `::`, and what follows. -/
structure Attribute where
  path : List Text
  body : AttributeBody
deriving DecidableEq, Repr

/-- What is wrong with a `model` attribute. -/
inductive AttributeError where
  /-- It has no arguments. -/
  | missingArguments
  /-- It has a value where its arguments belong. -/
  | assigned
  /-- Its arguments end before the first one. -/
  | noArgument
  /-- Its first argument is no word. -/
  | notWord
  /-- Its first argument is a reserved word. -/
  | reservedWord (word : Text)
  /-- Something follows its first argument. -/
  | trailingArgument
  /-- Its argument has no meaning. -/
  | unknownArgument (word : Text)
deriving DecidableEq, Repr

/-- The message for the author of the declaration. -/
def AttributeError.message : AttributeError → Text
  | missingArguments => "expected attribute arguments in parentheses: `model(...)`".toList
  | assigned => "expected `(`".toList
  | noArgument => "unexpected end of input, expected identifier".toList
  | notWord => "expected identifier".toList
  | reservedWord word => "expected identifier, found keyword `".toList ++ word ++ "`".toList
  | trailingArgument => "unexpected token".toList
  | unknownArgument word => "Unknown model attribute `".toList ++ word ++ "`".toList

namespace Attribute

/-! ## Reading -/

/-- The path at the front of some tokens, and what follows it. -/
def takePath : List Lexeme → List Text × List Lexeme
  | ⟨.word, word⟩ :: ⟨.mark, [':']⟩ :: ⟨.mark, [':']⟩ :: rest =>
    let (path, rest) := takePath rest
    (word :: path, rest)
  | ⟨.mark, [':']⟩ :: ⟨.mark, [':']⟩ :: rest =>
    let (path, rest) := takePath rest
    ([] :: path, rest)
  | ⟨.word, word⟩ :: rest => ([word], rest)
  | rest => ([], rest)

/-- The attribute with the given text. -/
def ofText (text : Text) : Attribute :=
  let (path, rest) := takePath (Lexeme.tokens text)
  match rest with
  | [] => ⟨path, .nothing⟩
  | ⟨.mark, ['=']⟩ :: _ => ⟨path, .assignment⟩
  | _ :: tokens => ⟨path, .arguments tokens.dropLast⟩

/-! ## Meaning -/

/-- The words that cannot be arguments. -/
def reservedWords : List Text :=
  [ "_", "abstract", "as", "async", "await", "become", "box", "break", "const", "continue",
    "crate", "do", "dyn", "else", "enum", "extern", "false", "final", "fn", "for", "if", "impl",
    "in", "let", "loop", "macro", "match", "mod", "move", "mut", "override", "priv", "pub", "ref",
    "return", "Self", "self", "static", "struct", "super", "trait", "true", "try", "type",
    "typeof", "unsafe", "unsized", "use", "virtual", "where", "while", "yield" ].map
    String.toList

/-- Whether the attribute is the one that has a meaning here. -/
def isModel (given : Attribute) : Bool :=
  given.path = ["model".toList]

/-- The one word among the arguments of an attribute. -/
def argument : AttributeBody → Except AttributeError Text
  | .nothing => .error .missingArguments
  | .assignment => .error .assigned
  | .arguments [] => .error .noArgument
  | .arguments (⟨.word, word⟩ :: more) =>
    if reservedWords.contains word then .error (.reservedWord word)
    else if more.isEmpty then .ok word
    else .error .trailingArgument
  | .arguments (_ :: _) => .error .notWord

/-- Whether the attribute hides the field from queries. -/
def isSkip (given : Attribute) : Except AttributeError Bool :=
  if given.isModel then
    match argument given.body with
    | .error error => .error error
    | .ok word => if word = "skip".toList then .ok true else .error (.unknownArgument word)
  else
    .ok false

end Attribute

end TextQuery
