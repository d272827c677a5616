import TextQuery.Clause.Basic
import TextQuery.Calendar.Pattern

/-!
Options of compilation: what a text may leave out, and how literals are written.
-/

namespace TextQuery

/-- Options shared by the compilation of filters, orders and selections. -/
structure CompileOptions where
  /-- The direction of an order that gives none. -/
  defaultDirection : Direction := .asc
  /-- The patterns of date literals, in the order in which they are tried. -/
  dateFormats : List Text := ["%Y-%m-%d".toList, "%m/%d/%Y".toList]
  /-- The patterns of literals with date and time, in the order in which they are tried. -/
  dateTimeFormats : List Text :=
    ["%Y-%m-%dT%H:%M:%S%.f".toList, "%Y-%m-%d %H:%M:%S%.f".toList]
  /-- The literal that stands for an absent value of a nullable field. -/
  nullLiteral : Option Text := none
deriving DecidableEq, Repr

namespace CompileOptions

/-- The options with another default direction. -/
def withDefaultDirection (options : CompileOptions) (direction : Direction) : CompileOptions :=
  { options with defaultDirection := direction }

/-- The options with the given literal for absent values. -/
def withNullLiteral (options : CompileOptions) (literal : Text) : CompileOptions :=
  { options with nullLiteral := some literal }

/-- Reads a date by the first pattern that matches. -/
def readDate? (options : CompileOptions) (text : Text) : Option Date :=
  options.dateFormats.findSome? fun format => (Pattern.ofText format).readDate? text

/-- Reads a date and time by the first pattern that matches; a date alone means its midnight. -/
def readDateTime? (options : CompileOptions) (text : Text) : Option DateTime :=
  (options.dateTimeFormats.findSome? fun format => (Pattern.ofText format).readDateTime? text).or
    ((options.readDate? text).map DateTime.atMidnight)

/-- Whether `text` is the literal for absent values, in any case and with any white space around
it. -/
def isNullLiteral (options : CompileOptions) (text : Text) : Bool :=
  options.nullLiteral.any (Text.eqIgnoreAsciiCase · text.trim)

end CompileOptions

end TextQuery
