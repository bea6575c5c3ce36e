import LogCourier.Main
import LogCourier.Rehearsal.Site
import LogCourier.Rehearsal.World
import LogCourier.Proofs.Transcript
import LogCourier.Proofs.Lookup
import LogCourier.Proofs.Traffic
import LogCourier.Proofs.Polling
import LogCourier.Proofs.Rows
import LogCourier.Proofs.Scan
import LogCourier.Proofs.GrowingLog
import LogCourier.Proofs.Reconciliation
import LogCourier.Proofs.Formatting
import LogCourier.Proofs.Delivery
import LogCourier.Proofs.Account
import LogCourier.Proofs.Rounds
import LogCourier.Proofs.Room
import LogCourier.Proofs.Rehearsals
import LogCourier.Proofs.CursorLaw
import LogCourier.Proofs.Order
import LogCourier.Proofs.Backlog
import LogCourier.Proofs.Coverage
import LogCourier.Proofs.LiveLog
import LogCourier.Proofs.FailedCycles
import LogCourier.Proofs.Convergence
import LogCourier.Proofs.Metrics
import LogCourier.Proofs.Notes
import LogCourier.Proofs.JobRun
import LogCourier.Proofs.FormText
import LogCourier.Proofs.Errands
import LogCourier.Proofs.Secrecy
import LogCourier.Proofs.Refusals
import LogCourier.Proofs.SourceRequests
import LogCourier.Proofs.Operations
import LogCourier.Proofs.Governing
import LogCourier.Proofs.FailFast
import LogCourier.Proofs.Events
import LogCourier.Proofs.Counters
import LogCourier.Proofs.Paths
import LogCourier.Proofs.Files
import LogCourier.Proofs.Numerals
import LogCourier.Proofs.Trimming
import LogCourier.Proofs.CursorText
import LogCourier.Proofs.Utf8Text
import LogCourier.Proofs.FileWorld
import LogCourier.Proofs.CursorStore
import LogCourier.Proofs.CursorHistory
import LogCourier.Proofs.Nearest
import LogCourier.Proofs.Gauges
import LogCourier.Proofs.StoredCursor
import LogCourier.Proofs.Mirror
import LogCourier.Proofs.Harvest
import LogCourier.Proofs.Layers
import LogCourier.Proofs.Grouping
import LogCourier.Proofs.TwoWorlds
import LogCourier.Proofs.ReverseLookups
import LogCourier.Proofs.JsonGrammar
import LogCourier.Proofs.JsonScanning
import LogCourier.Proofs.JsonRoundTrip
import LogCourier.Proofs.JsonRecords
import LogCourier.Proofs.JsonRevisions
import LogCourier.Proofs.PageText
import LogCourier.Proofs.Wants
import LogCourier.Proofs.Objections
import LogCourier.Proofs.WireFormat
import LogCourier.Proofs.Segments
import LogCourier.Proofs.Requests
import LogCourier.Proofs.BacklogNotes
import LogCourier.Proofs.SubBatches
import LogCourier.Proofs.Streams
import LogCourier.Proofs.Breaker
import LogCourier.Proofs.HeadRequest
import LogCourier.Proofs.Filing
import LogCourier.Proofs.Memoisation
import LogCourier.Proofs.Questions
import LogCourier.Proofs.Replies
import LogCourier.Proofs.CalendarDays
import LogCourier.Proofs.TimeText
import LogCourier.Proofs.WrittenTimes
