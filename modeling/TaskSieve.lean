import TaskSieve.Main
import TaskSieve.Proofs.Calendar.Civil
import TaskSieve.Proofs.Except
import TaskSieve.Proofs.Filter.Building
import TaskSieve.Proofs.Filter.Checking
import TaskSieve.Proofs.Filter.Coherence
import TaskSieve.Proofs.Filter.Distance
import TaskSieve.Proofs.Filter.Fault
import TaskSieve.Proofs.Filter.Found
import TaskSieve.Proofs.Filter.Grammar
import TaskSieve.Proofs.Filter.Grouping
import TaskSieve.Proofs.Filter.Lexing
import TaskSieve.Proofs.Filter.Membership
import TaskSieve.Proofs.Filter.Moment
import TaskSieve.Proofs.Filter.Printing
import TaskSieve.Proofs.Filter.Reading
import TaskSieve.Proofs.Filter.Rereading
import TaskSieve.Proofs.Filter.Spelling
import TaskSieve.Proofs.Filter.Viability
import TaskSieve.Proofs.Filter.WholeDay
import TaskSieve.Proofs.Listing.Fallback
import TaskSieve.Proofs.Listing.LastPage
import TaskSieve.Proofs.Listing.Outcome
import TaskSieve.Proofs.Listing.Pacing
import TaskSieve.Proofs.Listing.Protocol
import TaskSieve.Proofs.Listing.Secrecy
import TaskSieve.Proofs.Listing.Unreadable
import TaskSieve.Proofs.Number.Digits
import TaskSieve.Proofs.Number.Layout
import TaskSieve.Proofs.Number.Overflow
import TaskSieve.Proofs.Number.Rounding
import TaskSieve.Proofs.Number.Shortest
import TaskSieve.Proofs.Remote.Retry
import TaskSieve.Proofs.Remote.Serving
import TaskSieve.Proofs.Saved.Atomic
import TaskSieve.Proofs.Saved.Columns
import TaskSieve.Proofs.Saved.Disk
import TaskSieve.Proofs.Saved.Fault
import TaskSieve.Proofs.Saved.Mirror
import TaskSieve.Proofs.Saved.Opening
import TaskSieve.Proofs.Saved.Run
import TaskSieve.Proofs.Saved.Vetting
import TaskSieve.Proofs.Schema.Timestamp
import TaskSieve.Proofs.Service.Fault
import TaskSieve.Proofs.Sorting
import TaskSieve.Proofs.Task.Dates
import TaskSieve.Proofs.Task.Order
import TaskSieve.Proofs.Task.Page
import TaskSieve.Proofs.Task.Ranking
import TaskSieve.Proofs.Task.Raw
import TaskSieve.Proofs.Task.Response
import TaskSieve.Proofs.Text.Blank
import TaskSieve.Saved.Request
