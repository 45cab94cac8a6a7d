import ThoughtJournal.Atomizer
import ThoughtJournal.Calendar
import ThoughtJournal.Category
import ThoughtJournal.Command.Print
import ThoughtJournal.Command.Run
import ThoughtJournal.Command.World
import ThoughtJournal.CommandLine
import ThoughtJournal.Config.Basic
import ThoughtJournal.Config.Decode
import ThoughtJournal.Decimal
import ThoughtJournal.Dictionary
import ThoughtJournal.Digest
import ThoughtJournal.Failure
import ThoughtJournal.Files
import ThoughtJournal.Journal
import ThoughtJournal.Json.Printer
import ThoughtJournal.Json.Reader
import ThoughtJournal.Json.Value
import ThoughtJournal.Main
import ThoughtJournal.Path
import ThoughtJournal.Proofs.Journal.TitleOrder
import ThoughtJournal.Proofs.Scan.Outline
import ThoughtJournal.Proofs.Store.LatestDate
import ThoughtJournal.Proofs.Sync.Faultless
import ThoughtJournal.Proofs.Sync.GrowingTracker
import ThoughtJournal.Proofs.Sync.Recovery
import ThoughtJournal.Proofs.Sync.Timeline
import ThoughtJournal.Scan
import ThoughtJournal.Session
import ThoughtJournal.Store.Basic
import ThoughtJournal.Store.Connection
import ThoughtJournal.Store.Faulty
import ThoughtJournal.Store.Location
import ThoughtJournal.Store.Memory
import ThoughtJournal.Store.Relational
import ThoughtJournal.Sync.Report
import ThoughtJournal.Sync.Run
import ThoughtJournal.Taxonomy
import ThoughtJournal.Text.Basic
import ThoughtJournal.Text.CaseTable
import ThoughtJournal.Text.Lowercase
import ThoughtJournal.Text.Order
import ThoughtJournal.Text.Percent
import ThoughtJournal.Text.Quoted
import ThoughtJournal.Text.Utf8
import ThoughtJournal.Thought
import ThoughtJournal.Toml.Document
import ThoughtJournal.Toml.Reader
import ThoughtJournal.Toml.Scalar
import ThoughtJournal.Tracker.Issue
import ThoughtJournal.Tracker.Program
import ThoughtJournal.Tracker.Rest
import ThoughtJournal.Url.Basic
import ThoughtJournal.Url.Host
import ThoughtJournal.Url.Numeric
import ThoughtJournal.Url.Punycode
import ThoughtJournal.Url.Reader
import ThoughtJournal.Proofs.Sync.Batches
import ThoughtJournal.Proofs.Sync.Stalling
import ThoughtJournal.Proofs.Sync.Counters
import ThoughtJournal.Proofs.Sync.Rescan
import ThoughtJournal.Proofs.Text.ByteOrder
import ThoughtJournal.Proofs.Store.Queries
import ThoughtJournal.Proofs.Store.Simulation
import ThoughtJournal.Proofs.Session.Answers
import ThoughtJournal.Proofs.Sync.Accounts
import ThoughtJournal.Proofs.Calendar.IsoDate
import ThoughtJournal.Proofs.Sync.History
import ThoughtJournal.Proofs.Sync.Titles
import ThoughtJournal.Proofs.Sync.Agreement
import ThoughtJournal.Proofs.Sync.Overlap
import ThoughtJournal.Proofs.Command.Reading
import ThoughtJournal.Proofs.Store.Transcript
import ThoughtJournal.Proofs.Text.Lines
import ThoughtJournal.Proofs.Scan.Parts
import ThoughtJournal.Proofs.Scan.Comments
import ThoughtJournal.Proofs.Scan.Checklist
import ThoughtJournal.Proofs.Store.Statistics
import ThoughtJournal.Proofs.Scan.Layout
import ThoughtJournal.Proofs.Scan.Shape
import ThoughtJournal.Proofs.Text.Sigma
import ThoughtJournal.Proofs.Taxonomy.Keywords
import ThoughtJournal.Proofs.Taxonomy.Loading
import ThoughtJournal.Proofs.Journal.Selection
import ThoughtJournal.Proofs.Text.AscendingSet
import ThoughtJournal.Proofs.Thought.Canonical
import ThoughtJournal.Proofs.Text.Utf8
import ThoughtJournal.Proofs.Json.Grammar
import ThoughtJournal.Proofs.Json.Reading
import ThoughtJournal.Proofs.Json.Printed
import ThoughtJournal.Proofs.Tracker.Transports
import ThoughtJournal.Proofs.Sync.Selected
import ThoughtJournal.Proofs.Sync.RepeatedRescan
import ThoughtJournal.Proofs.Scan.Markers
import ThoughtJournal.Proofs.Text.Words
import ThoughtJournal.Proofs.Config.Repository
import ThoughtJournal.Proofs.Config.Validation
