import GuardedSearch.AccessRule
import GuardedSearch.AccessRule.Codec
import GuardedSearch.Aggregation
import GuardedSearch.Backend
import GuardedSearch.Calendar
import GuardedSearch.Catalog.Basic
import GuardedSearch.Catalog.Resolution
import GuardedSearch.Catalog.Store
import GuardedSearch.CommandLine.Options
import GuardedSearch.CommandLine.Run
import GuardedSearch.Condition
import GuardedSearch.Condition.Printer
import GuardedSearch.Condition.Reader
import GuardedSearch.DataType
import GuardedSearch.Distribution
import GuardedSearch.Distribution.OfDocuments
import GuardedSearch.Document
import GuardedSearch.Document.Comparison
import GuardedSearch.Document.Values
import GuardedSearch.Double.Arithmetic
import GuardedSearch.Double.Basic
import GuardedSearch.Double.Decimal
import GuardedSearch.Double.Printer
import GuardedSearch.Double.Shortest
import GuardedSearch.Entity
import GuardedSearch.Entity.Codec
import GuardedSearch.Instant.Basic
import GuardedSearch.Instant.Parser
import GuardedSearch.Instant.Printer
import GuardedSearch.Json.Basic
import GuardedSearch.Json.Decode
import GuardedSearch.Json.DecodeError
import GuardedSearch.Json.Printer
import GuardedSearch.Json.Raw
import GuardedSearch.Json.Reader
import GuardedSearch.Literal
import GuardedSearch.Main
import GuardedSearch.Metadata
import GuardedSearch.Metrics
import GuardedSearch.Policy
import GuardedSearch.Predicate
import GuardedSearch.Predicate.OfCondition
import GuardedSearch.Predicate.OfText
import GuardedSearch.Predicate.Rows
import GuardedSearch.Proofs.Catalog.Checked
import GuardedSearch.Proofs.Condition.Meaning
import GuardedSearch.Proofs.Policy.Asked
import GuardedSearch.Proofs.Policy.Spelling
import GuardedSearch.Proofs.Predicate.Pointwise
import GuardedSearch.Proofs.Search.Containment
import GuardedSearch.Proofs.Search.Plan
import GuardedSearch.Proofs.Search.Secrecy
import GuardedSearch.Proofs.Sorting.Order
import GuardedSearch.Proofs.Stages
import GuardedSearch.Proofs.Text.CaseFolding
import GuardedSearch.Request
import GuardedSearch.Response
import GuardedSearch.RowSet
import GuardedSearch.Scope
import GuardedSearch.Search
import GuardedSearch.SearchError
import GuardedSearch.Service
import GuardedSearch.Settings
import GuardedSearch.Sorting
import GuardedSearch.Sorting.Order
import GuardedSearch.Statistics
import GuardedSearch.Table
import GuardedSearch.Text.Alphanumeric
import GuardedSearch.Text.Blank
import GuardedSearch.Text.Case
import GuardedSearch.Text.CaseTable
import GuardedSearch.Text.CharRange
import GuardedSearch.Text.Hidden
import GuardedSearch.Text.Numeral
import GuardedSearch.Text.Quoted
import GuardedSearch.Text.Search
import GuardedSearch.Text.Word
import GuardedSearch.Proofs.Catalog.Consistency
import GuardedSearch.Proofs.Catalog.Resolution
import GuardedSearch.Proofs.Condition.OneOperator
import GuardedSearch.Proofs.Condition.Operators
import GuardedSearch.Proofs.Policy.Restriction
import GuardedSearch.Proofs.Catalog.Naming
import GuardedSearch.Proofs.Policy.Enforcement
import GuardedSearch.Proofs.Search.Matching
import GuardedSearch.Proofs.Search.Pages
import GuardedSearch.Proofs.Table
import GuardedSearch.Proofs.Distribution.Ranking
import GuardedSearch.Proofs.Search.Facets
import GuardedSearch.Proofs.Search.Aggregations
import GuardedSearch.Proofs.Search.Accounting
import GuardedSearch.Proofs.Search.DrillDown
import GuardedSearch.Proofs.Condition.Draft
import GuardedSearch.Proofs.Condition.Reading
import GuardedSearch.Proofs.Json.Words
import GuardedSearch.Proofs.Lookup
import GuardedSearch.Proofs.Json.Texts
import GuardedSearch.Proofs.Json.Printing
import GuardedSearch.Proofs.Json.Records
import GuardedSearch.Proofs.Metadata.RoundTrip
import GuardedSearch.Proofs.Condition.Canonical
import GuardedSearch.Proofs.Condition.RoundTrip
import GuardedSearch.Proofs.Predicate.Nodes
import GuardedSearch.Proofs.Predicate.Typing
import GuardedSearch.Proofs.Catalog.Publishing
import GuardedSearch.Proofs.Catalog.History
import GuardedSearch.Proofs.Condition.Faults
import GuardedSearch.Proofs.Sorting.Arrangement
import GuardedSearch.Proofs.Predicate.Counting
import GuardedSearch.Proofs.Policy.OneEntity
import GuardedSearch.Proofs.Double.Rounding
import GuardedSearch.Proofs.Double.Places
import GuardedSearch.Proofs.Document.OneValue
import GuardedSearch.Proofs.Document.Integers
import GuardedSearch.Proofs.Double.Decimals
import GuardedSearch.Proofs.Double.Reading
import GuardedSearch.Proofs.Literal.Whole
import GuardedSearch.Proofs.Document.Stored
import GuardedSearch.Proofs.Text.Shape
import GuardedSearch.Proofs.Double.Alike
import GuardedSearch.Proofs.Instant.Calendar
import GuardedSearch.Proofs.Instant.Order
import GuardedSearch.Proofs.Sorting.Bounds
import GuardedSearch.Proofs.Text.Parts
import GuardedSearch.Proofs.Condition.TextParts
import GuardedSearch.Proofs.Condition.Agreement
import GuardedSearch.Proofs.Double.Extremes
import GuardedSearch.Proofs.Statistics
import GuardedSearch.Proofs.Search.Statistics
import GuardedSearch.Proofs.Text.Words
import GuardedSearch.Proofs.Condition.StoredOnce
import GuardedSearch.Proofs.Search.FreeText
import GuardedSearch.Proofs.Search.Names
import GuardedSearch.Proofs.Instant.Forms
import GuardedSearch.Proofs.Literal.Coercion
import GuardedSearch.Proofs.Document.Paths
import GuardedSearch.Proofs.Document.Arrays
import GuardedSearch.Proofs.Instant.Days
import GuardedSearch.Proofs.Instant.Printing
import GuardedSearch.Proofs.Literal.Rendering
import GuardedSearch.Proofs.Catalog.FileVersions
