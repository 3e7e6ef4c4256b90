import QueryShell.Completion
import QueryShell.Main
import QueryShell.Scripted.Engine
import QueryShell.Scripted.Remote
import QueryShell.Scripted.Server
import QueryShell.Proofs.Text.Case
import QueryShell.Proofs.Text.Trim
import QueryShell.Proofs.Text.Lines
import QueryShell.Proofs.Text.Words
import QueryShell.Proofs.Text.Search
import QueryShell.Proofs.Text.Bytes
import QueryShell.Proofs.Text.Order
import QueryShell.Proofs.Text.Letters
import QueryShell.Proofs.Number.Literal
import QueryShell.Proofs.Number.Digits
import QueryShell.Proofs.Files.Write
import QueryShell.Proofs.Files.Agreement
import QueryShell.Proofs.Statement.Pieces
import QueryShell.Proofs.Statement.Grammar
import QueryShell.Proofs.Statement.Escaping
import QueryShell.Proofs.Statement.Lines
import QueryShell.Proofs.Statement.Positions
import QueryShell.Proofs.Statement.Cursor
import QueryShell.Proofs.Run.Advance
import QueryShell.Proofs.Run.Recursion
import QueryShell.Proofs.Run.Iteration
import QueryShell.Proofs.Run.Trace
import QueryShell.Proofs.Run.ErrorPolicy
import QueryShell.Proofs.Run.Order
import QueryShell.Proofs.Run.Bookmark
import QueryShell.Proofs.Report.Log
import QueryShell.Proofs.Report.Backend
import QueryShell.Proofs.Report.Status
import QueryShell.Proofs.Backend.Frame
import QueryShell.Proofs.Backend.Served
import QueryShell.Proofs.Backend.Rounds
import QueryShell.Proofs.Backend.Forwarding
import QueryShell.Proofs.Output.Open
import QueryShell.Proofs.Sampling.Statements
import QueryShell.Proofs.Sampling.SideFile
import QueryShell.Proofs.Sampling.Rewrite
import QueryShell.Proofs.Sampling.Freshness
import QueryShell.Proofs.Sampling.LostSample
import QueryShell.Proofs.Sampling.SideFailure
import QueryShell.Proofs.Sampling.TableName
import QueryShell.Proofs.Sampling.SafeName
import QueryShell.Proofs.Sampling.Grammar
import QueryShell.Proofs.Sampling.Summary
import QueryShell.Proofs.Remote.Paging
import QueryShell.Proofs.Remote.Answers
import QueryShell.Proofs.Postgres.Exchange
import QueryShell.Proofs.Postgres.Cursor
import QueryShell.Proofs.Postgres.Transaction
import QueryShell.Proofs.Postgres.Belief
import QueryShell.Proofs.Postgres.Failures
import QueryShell.Proofs.Modes.Twin
import QueryShell.Proofs.Modes.Verdict
import QueryShell.Proofs.Modes.Agreement
import QueryShell.Proofs.Startup.Settings
import QueryShell.Proofs.Startup.InitFiles
import QueryShell.Proofs.Startup.Precedence
import QueryShell.Proofs.Startup.Port
import QueryShell.Proofs.Url.Percent
import QueryShell.Proofs.Url.Address
import QueryShell.Proofs.Url.Path
import QueryShell.Proofs.Url.Host
import QueryShell.Proofs.Url.Authority
import QueryShell.Proofs.Url.Reading
import QueryShell.Proofs.Connection.RoundTrip
import QueryShell.Proofs.Connection.Server
import QueryShell.Proofs.Resource.History
import QueryShell.Proofs.Interactive.Units
import QueryShell.Proofs.Session.Directed
import QueryShell.Proofs.Command.Routing
import QueryShell.Proofs.Resource.Adding
import QueryShell.Proofs.Resource.Listing
import QueryShell.Proofs.Session.Evolution
import QueryShell.Proofs.Output.Growth
import QueryShell.Proofs.Output.Streaming
import QueryShell.Proofs.Output.Outcome
import QueryShell.Proofs.Escape.Schedule
import QueryShell.Proofs.Completion.Candidates
import QueryShell.Proofs.Completion.Word
