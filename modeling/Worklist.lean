import Worklist.Calendar.Civil
import Worklist.Calendar.Date
import Worklist.Calendar.Range
import Worklist.Field.Basic
import Worklist.Field.Catalog
import Worklist.Field.Key
import Worklist.Filter.Clause
import Worklist.Filter.Operator
import Worklist.Filter.Predicate
import Worklist.Filter.Wire
import Worklist.Json.Fault
import Worklist.Json.Numeric
import Worklist.Json.Reader
import Worklist.Json.Token
import Worklist.Json.Tree
import Worklist.Json.Writer
import Worklist.Names
import Worklist.Notice
import Worklist.Number.Binary64
import Worklist.Number.Layout
import Worklist.Number.Literal
import Worklist.Number.Numeral
import Worklist.Number.Power
import Worklist.Number.Range
import Worklist.Number.Shortest
import Worklist.Number.Whole
import Worklist.Query.Basic
import Worklist.Query.Error
import Worklist.Query.GroupKey
import Worklist.Query.Outcome
import Worklist.Query.Pool
import Worklist.Query.Roles
import Worklist.Query.Scope
import Worklist.Query.Session
import Worklist.Settings.Basic
import Worklist.Settings.Load
import Worklist.Sql.Column
import Worklist.Sql.Condition
import Worklist.Sql.Dialect
import Worklist.Sql.Statement
import Worklist.Store.Affinity
import Worklist.Store.Basic
import Worklist.Store.Error
import Worklist.Store.Insert
import Worklist.Store.Meaning
import Worklist.Store.Plan
import Worklist.Store.Row
import Worklist.Store.Schema
import Worklist.Store.Select
import Worklist.Store.Truth
import Worklist.Store.Value
import Worklist.Text.Blank
import Worklist.Text.Escaped
import Worklist.Text.LetterCase
import Worklist.Text.Like
import Worklist.Text.Lowercase
import Worklist.Text.Visible
import Worklist.WorkPackage.Basic
import Worklist.WorkPackage.Wire
import Worklist.Proofs.Store.RowOrder
import Worklist.Proofs.Store.Integrity
import Worklist.Proofs.Store.Joined
import Worklist.Proofs.Store.Selected
import Worklist.Proofs.Store.FewerJoins
import Worklist.Proofs.Store.Declared
import Worklist.Proofs.Query.Admission
import Worklist.Proofs.Query.Answers
import Worklist.Proofs.Query.Composition
import Worklist.Proofs.Query.Histogram
import Worklist.Proofs.Query.Structure
import Worklist.Proofs.Query.Visibility
import Worklist.Proofs.Text.Order
import Worklist.Proofs.Calendar.Order
import Worklist.Proofs.Calendar.Timestamp
import Worklist.Proofs.Filter.DayRange
import Worklist.Proofs.Filter.FarDays
import Worklist.Proofs.Filter.CurrentWeek
import Worklist.Proofs.Filter.Blank
import Worklist.Proofs.Query.Pages
import Worklist.Proofs.Query.Reordered
import Worklist.Proofs.Number.Decimal
import Worklist.Proofs.Store.Equality
import Worklist.Proofs.Text.Search
import Worklist.Proofs.Query.Accepted
import Worklist.Proofs.Filter.Search
import Worklist.Proofs.Filter.Opposite
import Worklist.Proofs.Query.GroupEntry
import Worklist.Proofs.Query.RoleFilter
import Worklist.Proofs.Query.Ordering
import Worklist.Proofs.Query.ManyFilters
import Worklist.Proofs.Json.Spelling
import Worklist.Proofs.Json.Complete
import Worklist.Proofs.Filter.WireForm
import Worklist.Proofs.Filter.PlainSearch
import Worklist.Proofs.Filter.WeekOfDays
import Worklist.Proofs.Number.Nearest
import Worklist.Proofs.Number.ShortestDigits
import Worklist.Proofs.Filter.Threshold
import Worklist.Proofs.Sql.Literal
import Worklist.Proofs.Query.FirstFailure
import Worklist.Proofs.Query.Joins
import Worklist.Proofs.Query.RoleLookup
import Worklist.Proofs.Calendar.Shift
import Worklist.Proofs.Filter.RelativeRange
import Worklist.Proofs.Sql.Contents
import Worklist.Proofs.Filter.Arity
import Worklist.Proofs.Json.Members
import Worklist.Proofs.Filter.Decoding
import Worklist.Proofs.Filter.UnknownOperator
import Worklist.Proofs.Settings.File
import Worklist.Proofs.Settings.Precedence
import Worklist.Proofs.Number.ReadBack
import Worklist.Proofs.Field.Key
