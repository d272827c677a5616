import TextQuery.Text.Basic
import TextQuery.Text.LowerCaseTable
import TextQuery.Text.WordTable

/-!
Lower case of whole texts, for all of Unicode. A character moves to its partner in
`lowerCaseRuns`; two letters need more: `İ` becomes an `i` with a dot above, and a `Σ` that ends a
word becomes the final form `ς`. Names are compared by `eqIgnoreCase`.
-/

namespace TextQuery.Text

/-- The lower-case partner of one character; a character without partner stays. -/
def lowerChar (c : Char) : Char :=
  (lowerCaseRuns.findSome? (·.shift? c)).getD c

/-- Whether the nearest character of `text` that is not case-ignorable is a cased letter. -/
def meetsCased (text : Text) : Bool :=
  (text.dropWhile (inRanges caseIgnorableRanges)).head?.any (inRanges casedRanges)

/-- Whether a letter between `before` (nearest character first) and `after` ends a word: a cased
letter comes before it and none after it. -/
def endsWord (before after : Text) : Bool :=
  meetsCased before && !meetsCased after

/-- The lower-case form of `text`, which follows the characters `before` (nearest first). -/
def lowerAfter (before : Text) : Text → Text
  | [] => []
  | c :: rest =>
    (if c = 'İ' then ['i', '\u0307']
      else if c = 'Σ' then [if endsWord before rest then 'ς' else 'σ']
      else [lowerChar c]) ++ lowerAfter (c :: before) rest

/-- The lower-case form of a text. -/
def lower (text : Text) : Text :=
  lowerAfter [] text

/-- Equality of names up to case: of ASCII letters only if both are ASCII texts, otherwise of the
lower-case forms. -/
def eqIgnoreCase (left right : Text) : Bool :=
  if isAscii left && isAscii right then
    eqIgnoreAsciiCase left right
  else
    lower left = lower right

end TextQuery.Text
