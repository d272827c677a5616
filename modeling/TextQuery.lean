import TextQuery.Text.Quoted
import TextQuery.Text.LowerCase
import TextQuery.Number.Integer
import TextQuery.Number.FloatLiteral
import TextQuery.Number.Shortest
import TextQuery.Calendar.Written
import TextQuery.Calendar.Instant
import TextQuery.View
import TextQuery.Schema.Structure
import TextQuery.Clause.Reading
import TextQuery.Cache
import TextQuery.Json.Format
import TextQuery.Model.Interchange
import TextQuery.Model.Declaration
import TextQuery.Samples.Catalog
import TextQuery.Proofs.Path.Resolution
import TextQuery.Proofs.Path.Terminals
import TextQuery.Proofs.Clause.Pieces
import TextQuery.Proofs.Filter.Conditions
import TextQuery.Proofs.Filter.LeftToRight
import TextQuery.Proofs.Path.Composition
import TextQuery.Proofs.Text.CaseFolding
import TextQuery.Proofs.Schema.Lookup
import TextQuery.Proofs.Typing.Conformance
import TextQuery.Proofs.Typing.Soundness
import TextQuery.Proofs.Filter.DateFormats
import TextQuery.Proofs.Filter.Monotonicity
import TextQuery.Proofs.Query.FirstFault
import TextQuery.Proofs.Cache.Transparency
import TextQuery.Proofs.Clause.RoundTrip
import TextQuery.Proofs.Model.SkippedFields
import TextQuery.Proofs.Cache.Retention
import TextQuery.Proofs.Order.Preorder
import TextQuery.Proofs.Order.StableSorting
import TextQuery.Proofs.Query.Pipeline
import TextQuery.Proofs.Query.EarlyProjection
import TextQuery.Proofs.Query.Orderings
import TextQuery.Proofs.Query.Selections
import TextQuery.Proofs.Query.CanonicalTexts
import TextQuery.Proofs.Query.NamedFields
import TextQuery.Proofs.Model.FittingData
import TextQuery.Proofs.Model.Positions
import TextQuery.Proofs.Model.Addressing
import TextQuery.Proofs.Filter.Comparisons
import TextQuery.Proofs.Order.SortedKeys
import TextQuery.Proofs.Path.Chains
import TextQuery.Proofs.Query.Quotations
import TextQuery.Proofs.Filter.Searching
import TextQuery.Proofs.Model.SelectedFields
import TextQuery.Proofs.Clause.ParsingExpressions
import TextQuery.Proofs.Clause.AcceptedTexts
import TextQuery.Proofs.Number.Numerals
import TextQuery.Proofs.Filter.IntegerConditions
import TextQuery.Proofs.Query.Spellings
import TextQuery.Proofs.Model.SeenData
import TextQuery.Proofs.Calendar.LeapSeconds
import TextQuery.Proofs.Calendar.WrittenForms
import TextQuery.Proofs.Literal.Guids
import TextQuery.Proofs.Literal.OwnTexts
import TextQuery.Proofs.Query.FirstMentions
import TextQuery.Proofs.Model.AcceptedDeclarations
import TextQuery.Proofs.Text.BareTexts
import TextQuery.Proofs.Text.QuotedTexts
import TextQuery.Proofs.Literal.Renderings
import TextQuery.Proofs.Filter.Renderings
