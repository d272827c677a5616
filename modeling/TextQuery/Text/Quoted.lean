import TextQuery.Text.Basic
import TextQuery.Text.PrintableTable

/-!
Quoted texts and characters, as messages and renderings show them. A quote of the kind around it, a
backslash and the common control characters are escaped by a backslash; any other character without
a printed form of its own, or that would attach to the one before it, is shown by its code point
in hexadecimal.
-/

namespace TextQuery.Text

/-- Whether a quoted text shows `c` as it is. -/
def isShown (c : Char) : Bool :=
  !inRanges graphemeExtendRanges c && !inRanges unprintableRanges c

/-- The escape of `c` by its code point. -/
def codePointEscape (c : Char) : Text :=
  ['\\', 'u', '\x7b'] ++ Nat.toDigits 16 c.toNat ++ ['\x7d']

/-- One character between quotes of the kind `mark`. -/
def quotedChar (mark c : Char) : Text :=
  if c = '\x00' then ['\\', '0']
  else if c = '\t' then ['\\', 't']
  else if c = '\n' then ['\\', 'n']
  else if c = '\r' then ['\\', 'r']
  else if c = '\\' || c = mark then ['\\', c]
  else if isShown c then [c]
  else codePointEscape c

/-- The text between double quotes. -/
def quote (text : Text) : Text :=
  ['"'] ++ text.flatMap (quotedChar '"') ++ ['"']

/-- One character between single quotes. -/
def quoteChar (c : Char) : Text :=
  ['\''] ++ quotedChar '\'' c ++ ['\'']

end TextQuery.Text
