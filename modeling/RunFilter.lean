import RunFilter.Main
import RunFilter.Regex.Memo
import RunFilter.Proofs.Joins.ContextDocument
import RunFilter.Proofs.Joins.Placement
import RunFilter.Proofs.Truth
import RunFilter.Proofs.Hoisting
import RunFilter.Proofs.Parsing.Derivation
import RunFilter.Proofs.Parsing.Passing
import RunFilter.Proofs.Parsing.Attribute
import RunFilter.Proofs.Parsing.Filter
import RunFilter.Proofs.WellFormed
import RunFilter.Proofs.Sql.Reading
import RunFilter.Proofs.Sql.Draft
import RunFilter.Proofs.Sql.Placeholders
import RunFilter.Proofs.Sql.Words
import RunFilter.Proofs.Sql.Meaning
import RunFilter.Proofs.FirstMistake
import RunFilter.Proofs.Joins.Sharing
import RunFilter.Proofs.Parsing.Groups
import RunFilter.Proofs.Places
import RunFilter.Proofs.DefaultFilter
import RunFilter.Proofs.Shape
import RunFilter.Proofs.Joins.Lockstep
import RunFilter.Proofs.Sql.Shape
import RunFilter.Proofs.TypedText
import RunFilter.Proofs.Parsing.Height
import RunFilter.Proofs.Joins.Scope
import RunFilter.Proofs.Sql.Splicing
import RunFilter.Proofs.Sql.Structure
import RunFilter.Proofs.Sql.Dialects
import RunFilter.Proofs.Sql.Numbering
import RunFilter.Proofs.TextTests
import RunFilter.Proofs.Regex.Anchoring
import RunFilter.Proofs.Joins.ContextTests
import RunFilter.Proofs.Parsing.Lexemes
import RunFilter.Proofs.Parsing.Segments
import RunFilter.Proofs.ArrayLiteral
import RunFilter.Proofs.Parsing.Positions
import RunFilter.Proofs.DocumentPath
import RunFilter.Proofs.Admission
import RunFilter.Proofs.MetricSelection
import RunFilter.Proofs.Typing
import RunFilter.Proofs.Regex.Memory
import RunFilter.Proofs.Excerpt
import RunFilter.Proofs.Swapping
import RunFilter.Proofs.Sql.Qualifiers
import RunFilter.Proofs.Sql.RunsTable
import RunFilter.Proofs.Joins.Requests
import RunFilter.Proofs.Parsing.Numerals
import RunFilter.Proofs.Parsing.Calls
