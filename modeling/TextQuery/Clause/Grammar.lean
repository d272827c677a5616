import TextQuery.Text.Basic

/-!
The grammar of query texts. A `Rule` either takes a run of characters at the front of a text, or,
for the rules of whole texts, divides the text up to its end. `Rule.tokens?` lists the runs that a
rule takes, in order and from the outside in.

* a filter is one or more clauses with commas between them, and a clause is any run without comma;
* alternatives are divided by bars and selected names by commas, in the same way;
* a path is one or more segments with dots between them, where a segment is a run of one or more
  characters other than `.`, `=`, `,` and `|`;
* an ordering is a path, then possibly `=` and a direction, which is all the rest of the text.
-/

namespace TextQuery

/-- A rule of the grammar. -/
inductive Rule where
  | filter
  | clause
  | alternatives
  | alternative
  | order
  | direction
  | select
  | fieldName
  | pathOnly
  | path
  | segment
  /-- The end of the text. -/
  | finish
deriving DecidableEq, Repr

/-- A run of characters and the rule that took it. -/
structure Token where
  rule : Rule
  text : Text
deriving DecidableEq, Repr

namespace Token

/-- The token at the end of a whole text. -/
def finish : Token :=
  ⟨.finish, []⟩

end Token

namespace Grammar

/-- Whether `c` may stand in a segment of a path. -/
def isSegmentChar (c : Char) : Bool :=
  c ≠ '.' && c ≠ '=' && c ≠ ',' && c ≠ '|'

/-- The longest path at the front of a text: its segments, and the rest of the text. -/
def path? : Text → Option (List Text × Text)
  | [] => none
  | c :: rest =>
    if isSegmentChar c then
      match rest with
      | [] => some ([[c]], [])
      | d :: more =>
        if isSegmentChar d then
          match path? (d :: more) with
          | some (segment :: segments, rest) => some ((c :: segment) :: segments, rest)
          | _ => some ([[c]], d :: more)
        else if d = '.' then
          match path? more with
          | some (segments, rest) => some ([c] :: segments, rest)
          | none => some ([[c]], d :: more)
        else
          some ([[c]], d :: more)
    else
      none

/-- The tokens of a path: the whole of it, then its segments. -/
def pathTokens (segments : List Text) : List Token :=
  ⟨.path, Text.join ['.'] segments⟩ :: segments.map (⟨.segment, ·⟩)

/-- The tokens of a whole text that `separator` divides into runs of a rule. -/
def pieceTokens (rule : Rule) (separator : Char) (text : Text) : List Token :=
  (Text.pieces separator text).map (⟨rule, ·⟩) ++ [.finish]

end Grammar

/-- The tokens that a rule finds in a text, if it matches. -/
def Rule.tokens? (rule : Rule) (text : Text) : Option (List Token) :=
  match rule with
  | filter => some (Grammar.pieceTokens .clause ',' text)
  | alternatives => some (Grammar.pieceTokens .alternative '|' text)
  | select => some (Grammar.pieceTokens .fieldName ',' text)
  | clause => some [⟨.clause, text.takeWhile (· ≠ ',')⟩]
  | alternative => some [⟨.alternative, text.takeWhile (· ≠ '|')⟩]
  | fieldName => some [⟨.fieldName, text.takeWhile (· ≠ ',')⟩]
  | direction => some [⟨.direction, text⟩]
  | segment =>
    let run := text.takeWhile Grammar.isSegmentChar
    if run = [] then none else some [⟨.segment, run⟩]
  | path => (Grammar.path? text).map fun (segments, _) => Grammar.pathTokens segments
  | pathOnly =>
    match Grammar.path? text with
    | some (segments, []) => some (Grammar.pathTokens segments ++ [.finish])
    | _ => none
  | order =>
    match Grammar.path? text with
    | some (segments, []) => some (Grammar.pathTokens segments ++ [.finish])
    | some (segments, '=' :: rest) =>
      some (Grammar.pathTokens segments ++ [⟨.direction, rest⟩, .finish])
    | _ => none
  | finish => if text = [] then some [.finish] else none

end TextQuery
