import ServerGrid.Grid.Listing
import ServerGrid.Grid.Run
import ServerGrid.Json.Parser
import ServerGrid.Proofs.Search.Narrowing
import ServerGrid.Proofs.Sql.Rows
import ServerGrid.Proofs.Search.Reach
import ServerGrid.Proofs.Count.Markers
import ServerGrid.Proofs.Count.SelectList
import ServerGrid.Proofs.Column.Reading
import ServerGrid.Proofs.Column.Hidden
import ServerGrid.Proofs.Column.Declared
import ServerGrid.Proofs.Column.Quoting
import ServerGrid.Proofs.Query.Steps
import ServerGrid.Proofs.Query.Bindings
import ServerGrid.Proofs.Grid.Keywords
import ServerGrid.Proofs.Query.Additions
import ServerGrid.Proofs.Query.Exposed
import ServerGrid.Proofs.Grid.Counted
import ServerGrid.Proofs.Response.Envelope
import ServerGrid.Proofs.Search.Dependence
import ServerGrid.Proofs.Grid.Course
import ServerGrid.Proofs.Grid.Served
import ServerGrid.Proofs.Grid.Failures
import ServerGrid.Proofs.Column.Interference
import ServerGrid.Proofs.Grid.Numbered
import ServerGrid.Proofs.Search.Like
import ServerGrid.Proofs.Search.Patterns
import ServerGrid.Proofs.Search.Agreement
import ServerGrid.Proofs.Column.NullsLast
import ServerGrid.Proofs.Column.Written
import ServerGrid.Proofs.Query.SortKeys
import ServerGrid.Proofs.Search.Applied
import ServerGrid.Proofs.Query.OneOrderBy
import ServerGrid.Proofs.Column.Calls
import ServerGrid.Proofs.Response.Placing
import ServerGrid.Proofs.Query.Windows
import ServerGrid.Proofs.Response.Positions
import ServerGrid.Proofs.Response.Echo
import ServerGrid.Proofs.Sql.Spans
