import SearchQuery.Config
import SearchQuery.Evaluation
import SearchQuery.Json.Compiled
import SearchQuery.Json.Config
import SearchQuery.Json.Document
import SearchQuery.Json.Expression
import SearchQuery.Sql.Compiler
import SearchQuery.Proofs.Evaluation
import SearchQuery.Proofs.Diagnosis
import SearchQuery.Proofs.InvalidClause
import SearchQuery.Proofs.Sql.Reading
import SearchQuery.Proofs.Sql.Truth
import SearchQuery.Proofs.Sql.Rendering
import SearchQuery.Proofs.Sql.Formula
import SearchQuery.Proofs.Sql.Agreement
import SearchQuery.Proofs.Sql.Isolation
import SearchQuery.Proofs.Derivation
import SearchQuery.Proofs.Leaves
import SearchQuery.Proofs.Token.Reader
import SearchQuery.Proofs.Token.Rendering
import SearchQuery.Proofs.Token.Division
import SearchQuery.Proofs.Token.Seam
import SearchQuery.Proofs.Printing
import SearchQuery.Proofs.ReadingBack
import SearchQuery.Proofs.Sql.Confinement
import SearchQuery.Proofs.Sql.Placeholders
import SearchQuery.Proofs.Sql.Schema
import SearchQuery.Proofs.Sql.MatchQuery
import SearchQuery.Proofs.Calendar.Milliseconds
import SearchQuery.Proofs.Sql.CreationDate
import SearchQuery.Proofs.Satisfaction
import SearchQuery.Proofs.Sql.TagFilter
import SearchQuery.Proofs.DeepGroups
import SearchQuery.Proofs.NegationCount
import SearchQuery.Proofs.Height
import SearchQuery.Proofs.Guarantees
import SearchQuery.Proofs.Composition
import SearchQuery.Proofs.Json
import SearchQuery.Proofs.Text.FinalSigma
import SearchQuery.Proofs.Occurrence
import SearchQuery.Proofs.Text.SortedTables
import SearchQuery.Proofs.Text.CanonicalOrder
import SearchQuery.Proofs.Text.Decomposition
import SearchQuery.Proofs.Text.Composition
import SearchQuery.Proofs.Text.LowercaseForms
import SearchQuery.Proofs.Text.WhiteSpace
import SearchQuery.Proofs.SearchTerm
import SearchQuery.Proofs.InnerQuotes
import SearchQuery.Proofs.TagName
import SearchQuery.Proofs.Sql.Constants
import SearchQuery.Proofs.WaitingNegations
import SearchQuery.Proofs.IgnoredTokens
import SearchQuery.Proofs.Flattening
import SearchQuery.Proofs.Descent
import SearchQuery.Proofs.EndOfQuery
import SearchQuery.Proofs.NeutralTokens
import SearchQuery.Proofs.Alternatives
import SearchQuery.Proofs.Token.OpenQuotes
import SearchQuery.Proofs.Interchange
import SearchQuery.Proofs.Rearrangement
import SearchQuery.Proofs.Text.LetterCase
import SearchQuery.Proofs.Token.LetterCase
import SearchQuery.Proofs.LetterCase
import SearchQuery.Proofs.Calendar.DayNumber
import SearchQuery.Proofs.Text.Scan
import SearchQuery.Proofs.Calendar.Layout
import SearchQuery.Proofs.Calendar.Spelling
import SearchQuery.Proofs.Calendar.Forms
import SearchQuery.Proofs.TagIdentifier
import SearchQuery.Proofs.Sql.Schema
