import TextQuery.Text.Basic

/-!
Lexemes of declarations. `Lexeme.lexemes` cuts a text into words, literals and marks, and into the
blanks and comments between them; `Lexeme.tokens` leaves the last two out. What a literal or a
comment holds is its own: a quote, a delimiter or a comment sign inside it begins nothing. Main
statement: cutting loses nothing (`flatMap_text_lexemes`).
-/

namespace TextQuery

/-- The kinds of lexemes. -/
inductive LexemeKind where
  /-- One blank character. -/
  | blank
  | comment
  /-- A comment that documents what follows it. -/
  | documentation
  | word
  /-- A number, a character or a text. -/
  | literal
  /-- One character of punctuation, or one delimiter. -/
  | mark
deriving DecidableEq, Repr

/-- A lexeme: its kind, and its text as it is written. -/
structure Lexeme where
  kind : LexemeKind
  text : Text
deriving DecidableEq, Repr

namespace Lexeme

/-! ## Characters -/

/-- Whether `c` only divides lexemes: white space, or a mark of the direction of writing. -/
def isBlank (c : Char) : Bool :=
  Text.isWhiteSpace c || c = '\u200e' || c = '\u200f'

/-- Whether `c` can begin a word: a letter or an underscore. All characters beyond ASCII that are
not blank count as letters. -/
def isWordStart (c : Char) : Bool :=
  c.isAlpha || c = '_' || (128 ≤ c.toNat && !isBlank c)

/-- Whether `c` can continue a word. -/
def isWordPart (c : Char) : Bool :=
  isWordStart c || c.isDigit

/-! ## Extents

Each of these functions counts the characters at the front of a text that belong to a lexeme which
has begun before it. -/

/-- The extent of the rest of a word. -/
def wordExtent (text : Text) : Nat :=
  (text.takeWhile isWordPart).length

/-- The extent of the rest of a number: of its fraction too, if it has a point that neither another
point nor a word follows. -/
def numberExtent (text : Text) : Nat :=
  let whole := wordExtent text
  match text.drop whole with
  | '.' :: rest =>
    if rest.head?.any fun c => c = '.' || isWordStart c then whole
    else whole + 1 + wordExtent rest
  | _ => whole

/-- The extent up to the closing `mark`, which a backslash (`escaped`) keeps from closing. -/
def quotedExtent (mark : Char) (escaped : Bool) : Text → Nat
  | [] => 0
  | c :: rest =>
    if c = mark && !escaped then 1
    else 1 + quotedExtent mark (c = '\\' && !escaped) rest

/-- The extent up to the closing quote, which only closes before `fence`, and the fence. -/
def rawExtent (fence : Text) : Text → Nat
  | [] => 0
  | c :: rest =>
    if c = '"' && fence.isPrefixOf rest then 1 + fence.length
    else 1 + rawExtent fence rest

/-- The signs `#` between the word that marks a raw text and its opening quote. -/
def rawFence? (text : Text) : Option Text :=
  let fence := text.takeWhile (· = '#')
  if (text.drop fence.length).head? = some '"' then some fence else none

/-- The extent of a character literal after its opening quote. It holds one character or one escape;
otherwise the quote is a mark of its own. -/
def characterExtent? : Text → Option Nat
  | '\\' :: _ :: rest => some (2 + quotedExtent '\'' false rest)
  | _ :: '\'' :: _ => some 2
  | _ => none

/-- The extent of the literal that `word` opens, if it does: of a raw text, of bytes, of one byte
or of a text for a foreign interface. -/
def markedExtent? (word text : Text) : Option Nat :=
  if word ∈ ["r", "br", "cr"].map String.toList then
    (rawFence? text).map fun fence =>
      fence.length + 1 + rawExtent fence (text.drop (fence.length + 1))
  else
    match text with
    | '"' :: rest =>
      if word ∈ ["b", "c"].map String.toList then some (1 + quotedExtent '"' false rest) else none
    | '\'' :: rest => if word = ['b'] then (characterExtent? rest).map (1 + ·) else none
    | _ => none

/-- The extent of a closed literal with the word that may be fastened to it. -/
def suffixedExtent (extent : Nat) (text : Text) : Nat :=
  let rest := text.drop extent
  if rest.head?.any isWordStart then extent + wordExtent rest else extent

/-- The extent of a block comment that is open `depth` times. -/
def blockExtent : Nat → Text → Nat
  | depth, '/' :: '*' :: rest => 2 + blockExtent (depth + 1) rest
  | depth, '*' :: '/' :: rest => if depth ≤ 1 then 2 else 2 + blockExtent (depth - 1) rest
  | depth, _ :: rest => 1 + blockExtent depth rest
  | _, [] => 0

/-! ## Lexemes at the front of a text

Each of these functions gives the kind of a lexeme and the extent of what follows its first
character. -/

/-- The lexeme that begins with the word character `c`: a literal that the word opens, or a word,
which may begin with the mark `r#`. -/
def wordFront (c : Char) (rest : Text) : LexemeKind × Nat :=
  let extent := wordExtent rest
  let word := c :: rest.take extent
  let after := rest.drop extent
  match markedExtent? word after, after with
  | some more, _ => (.literal, suffixedExtent (extent + more) rest)
  | none, '#' :: d :: more =>
    if word = ['r'] && isWordStart d then (.word, extent + 2 + wordExtent more) else (.word, extent)
  | none, _ => (.word, extent)

/-- Whether a comment documents something: the first character after its opening signs is `!`, or
repeats their last one, `sign`, and ends neither the comment nor a run of signs. -/
def isDocumenting (sign : Char) : Text → Bool
  | [] => false
  | c :: rest => c = '!' || (c = sign && rest.head?.all fun d => d ≠ sign && d ≠ '/')

/-- The comment that begins with a slash before `rest`, if one does: to the end of the line, or a
block. -/
def commentFront? (rest : Text) : Option (LexemeKind × Nat) :=
  match rest with
  | '/' :: more =>
    let extent := 1 + (more.takeWhile (· ≠ '\n')).length
    some (if isDocumenting '/' more then .documentation else .comment, extent)
  | '*' :: more =>
    let extent := 1 + blockExtent 1 more
    some (if isDocumenting '*' more then .documentation else .comment, extent)
  | _ => none

/-- The lexeme that begins with `c`. -/
def front (c : Char) (rest : Text) : LexemeKind × Nat :=
  if isBlank c then (.blank, 0)
  else if c.isDigit then (.literal, numberExtent rest)
  else if isWordStart c then wordFront c rest
  else if c = '"' then (.literal, suffixedExtent (quotedExtent '"' false rest) rest)
  else if c = '\'' then
    match characterExtent? rest with
    | some extent => (.literal, suffixedExtent extent rest)
    | none => (.mark, 0)
  else if c = '/' then (commentFront? rest).getD (.mark, 0)
  else (.mark, 0)

/-! ## Texts -/

/-- The lexemes of a text after `extent` characters, which belong to a lexeme before them. -/
def lexemesFrom : Nat → Text → List Lexeme
  | _, [] => []
  | extent + 1, _ :: rest => lexemesFrom extent rest
  | 0, c :: rest =>
    let (kind, extent) := front c rest
    ⟨kind, c :: rest.take extent⟩ :: lexemesFrom extent rest

/-- The lexemes of a text. -/
def lexemes (text : Text) : List Lexeme :=
  lexemesFrom 0 text

/-- Whether the lexeme says something: neither a blank nor a plain comment does. -/
def isToken (lexeme : Lexeme) : Bool :=
  lexeme.kind ≠ .blank && lexeme.kind ≠ .comment

/-- The lexemes of a text without blanks and plain comments. -/
def tokens (text : Text) : List Lexeme :=
  (lexemes text).filter isToken

theorem flatMap_text_lexemesFrom (extent : Nat) (text : Text) :
    (lexemesFrom extent text).flatMap (·.text) = text.drop extent := by
  induction text generalizing extent with
  | nil => simp [lexemesFrom]
  | cons c rest ih =>
    cases extent with
    | zero => simp [lexemesFrom, ih]
    | succ extent => simp [lexemesFrom, ih]

/-- The lexemes of a text, one after the other, are the text. -/
theorem flatMap_text_lexemes (text : Text) : (lexemes text).flatMap (·.text) = text := by
  simp [lexemes, flatMap_text_lexemesFrom]

end Lexeme

end TextQuery
