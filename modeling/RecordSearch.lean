import RecordSearch.Main
import RecordSearch.Query.Print
import RecordSearch.Proofs.Text.Words
import RecordSearch.Proofs.Text.Chunks
import RecordSearch.Proofs.Query.Clauses
import RecordSearch.Proofs.Query.Residue
import RecordSearch.Proofs.Named
import RecordSearch.Proofs.Query.Parts
import RecordSearch.Proofs.Query.Sentence
import RecordSearch.Proofs.Query.Names
import RecordSearch.Proofs.Query.Check
import RecordSearch.Proofs.Search.Conditions
import RecordSearch.Proofs.Search.Sorting
import RecordSearch.Proofs.Search.Listing
import RecordSearch.Proofs.Query.Shape
import RecordSearch.Proofs.Query.Canonical
import RecordSearch.Proofs.Search.Failure
import RecordSearch.Proofs.Search.Conjunction
import RecordSearch.Proofs.Search.Panel
import RecordSearch.Proofs.Search.FreeText
import RecordSearch.Proofs.Search.Part
import RecordSearch.Proofs.Search.Growth
import RecordSearch.Proofs.Search.Tokens
import RecordSearch.Proofs.Search.Literals
import RecordSearch.Proofs.Search.Preview
import RecordSearch.Proofs.Query.Connectives
import RecordSearch.Proofs.Query.Account
import RecordSearch.Proofs.Query.Restated
import RecordSearch.Proofs.Query.ReadBack
import RecordSearch.Proofs.Text.Case
import RecordSearch.Proofs.Search.Leading
import RecordSearch.Proofs.Search.Completion
import RecordSearch.Proofs.Timestamp.Calendar
import RecordSearch.Proofs.Timestamp.Written
import RecordSearch.Proofs.Search.Offsets
import RecordSearch.Proofs.Query.Extraction
import RecordSearch.Proofs.Query.Removal
import RecordSearch.Proofs.Text.Gaps
import RecordSearch.Proofs.Search.Phrase
import RecordSearch.Proofs.Text.Places
import RecordSearch.Proofs.Query.WholeWords
import RecordSearch.Proofs.Search.DateClauses
import RecordSearch.Proofs.Search.Highlights
import RecordSearch.Proofs.Search.Stability
import RecordSearch.Proofs.Timestamp.Days
import RecordSearch.Proofs.Search.LastDay
import RecordSearch.Proofs.Text.Sigma
import RecordSearch.Proofs.Search.Verbatim
import RecordSearch.Proofs.Search.Marking
import RecordSearch.Proofs.Timestamp.NextDay
import RecordSearch.Proofs.Search.DayInterval
import RecordSearch.Proofs.Search.SuggestionList
import RecordSearch.Proofs.Config.Layers
import RecordSearch.Proofs.Config.Stated
import RecordSearch.Proofs.Markup.Tags
import RecordSearch.Proofs.Markup.Escape
import RecordSearch.Proofs.Query.Description
import RecordSearch.Proofs.Query.Hints
import RecordSearch.Proofs.Search.Blanks
import RecordSearch.Proofs.Search.LastToken
import RecordSearch.Proofs.Json.Members
import RecordSearch.Proofs.Json.Written
import RecordSearch.Proofs.Record.Loading
