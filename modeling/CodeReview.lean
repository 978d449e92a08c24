import CodeReview.Address.Authority
import CodeReview.Address.Basic
import CodeReview.Address.Domain
import CodeReview.Address.Host
import CodeReview.Address.Label
import CodeReview.Address.Mapping
import CodeReview.Address.Percent
import CodeReview.Address.Punycode
import CodeReview.Address.Reference
import CodeReview.Address.Registry
import CodeReview.Address.Repertoire
import CodeReview.Chat.Client
import CodeReview.Chat.Message
import CodeReview.Chat.StandIn
import CodeReview.Disk.Basic
import CodeReview.Disk.Discover
import CodeReview.Disk.Fault
import CodeReview.Disk.Listing
import CodeReview.Disk.Node
import CodeReview.Disk.Path
import CodeReview.Disk.Resolve
import CodeReview.Fault
import CodeReview.Finding.Basic
import CodeReview.Finding.Order
import CodeReview.Http.Application
import CodeReview.Http.Basic
import CodeReview.Http.Reviewing
import CodeReview.Http.Route
import CodeReview.Json.Fault
import CodeReview.Json.Reader
import CodeReview.Json.Shown
import CodeReview.Json.Value
import CodeReview.Json.Writer
import CodeReview.Number.Double
import CodeReview.Number.Numeral
import CodeReview.Number.Shortest
import CodeReview.Prompt.Analysis
import CodeReview.Prompt.Architecture
import CodeReview.Prompt.Explain
import CodeReview.Prompt.Fix
import CodeReview.Prompt.Purpose
import CodeReview.Proofs.Disk.Discovered
import CodeReview.Proofs.Finding.Merging
import CodeReview.Proofs.Json.Closing
import CodeReview.Proofs.Json.Cut
import CodeReview.Proofs.Json.Literal
import CodeReview.Proofs.Json.Object
import CodeReview.Proofs.Json.Plain
import CodeReview.Proofs.Json.Sequence
import CodeReview.Proofs.Record.Valid
import CodeReview.Proofs.Reply.Limit
import CodeReview.Proofs.Reply.Result
import CodeReview.Proofs.Reply.Span
import CodeReview.Proofs.Reply.Truncation
import CodeReview.Proofs.Review.Isolation
import CodeReview.Proofs.Review.Passes
import CodeReview.Proofs.Review.Reading
import CodeReview.Proofs.Review.Survival
import CodeReview.Proofs.Session.Asking
import CodeReview.Proofs.Session.Paging
import CodeReview.Proofs.Session.Stopping
import CodeReview.Proofs.Session.Yields
import CodeReview.Proofs.Settings.Accepted
import CodeReview.Record.Checked
import CodeReview.Record.Field
import CodeReview.Record.Numeral
import CodeReview.Reply.Analysis
import CodeReview.Reply.Architecture
import CodeReview.Reply.Issue
import CodeReview.Reply.Lenient
import CodeReview.Reply.Load
import CodeReview.Reply.Notice
import CodeReview.Reply.Patch
import CodeReview.Reply.Span
import CodeReview.Report.Basic
import CodeReview.Report.Encoded
import CodeReview.Report.Markdown
import CodeReview.Report.Moment
import CodeReview.Review.Basic
import CodeReview.Review.Fix
import CodeReview.Rule.Basic
import CodeReview.Rule.Default
import CodeReview.Rule.LocalFix
import CodeReview.Rule.Pattern
import CodeReview.Session.Basic
import CodeReview.Session.Fixing
import CodeReview.Session.Overview
import CodeReview.Session.Paging
import CodeReview.Session.Pause
import CodeReview.Session.Rehearsal
import CodeReview.Session.Scripted
import CodeReview.Session.Service
import CodeReview.Session.Storage
import CodeReview.Settings.Basic
import CodeReview.Settings.Load
import CodeReview.Text.Base64
import CodeReview.Text.Blank
import CodeReview.Text.Canonical
import CodeReview.Text.Cased
import CodeReview.Text.Composition
import CodeReview.Text.Digit
import CodeReview.Text.Direction
import CodeReview.Text.Encoding
import CodeReview.Text.Joining
import CodeReview.Text.Letters
import CodeReview.Text.Lines
import CodeReview.Text.LowerCase
import CodeReview.Text.Mark
import CodeReview.Text.Quoted
import CodeReview.Text.Search
import CodeReview.Text.Surrogate
import CodeReview.Text.Table
import CodeReview.Text.Units
import CodeReview.Text.Unprintable
import CodeReview.Text.Word
import CodeReview.Proofs.Reply.Offer
import CodeReview.Proofs.Session.Dialogue
import CodeReview.Proofs.Session.Fixing
import CodeReview.Proofs.Session.Chunks
import CodeReview.Proofs.Session.Delivery
import CodeReview.Proofs.Disk.Outline
import CodeReview.Proofs.Review.Accounting
import CodeReview.Proofs.Disk.Agreement
import CodeReview.Proofs.Finding.Distinct
import CodeReview.Proofs.Rule.Scanning
import CodeReview.Proofs.Session.Requests
import CodeReview.Proofs.Review.Hearings
import CodeReview.Proofs.Review.Composition
import CodeReview.Proofs.Review.Reported
import CodeReview.Proofs.Review.DryRun
import CodeReview.Proofs.Reply.Entries
import CodeReview.Proofs.Json.Spelling
import CodeReview.Proofs.Json.Layout
import CodeReview.Proofs.Reply.Embedded
import CodeReview.Proofs.Review.Fast
import CodeReview.Proofs.Json.Nesting
import CodeReview.Proofs.Json.Closed
import CodeReview.Proofs.Json.Completion
import CodeReview.Proofs.Reply.Repair
import CodeReview.Proofs.Finding.Merged
import CodeReview.Proofs.Session.Patchless
import CodeReview.Proofs.Number.Whole
import CodeReview.Proofs.Number.Numeral
import CodeReview.Proofs.Reply.Percentage
import CodeReview.Proofs.Rule.Convergence
import CodeReview.Proofs.Rule.Rescanning
import CodeReview.Proofs.Rule.Listed
import CodeReview.Proofs.Rule.Block
import CodeReview.Proofs.Text.Encoding
import CodeReview.Proofs.Text.Ending
import CodeReview.Proofs.Rule.Refiling
import CodeReview.Proofs.Review.LocalFixing
import CodeReview.Proofs.Disk.Tree
import CodeReview.Proofs.Disk.Joined
import CodeReview.Proofs.Disk.Found
import CodeReview.Proofs.Json.Written
import CodeReview.Proofs.Reply.Written
import CodeReview.Proofs.Report.Decoded
import CodeReview.Proofs.Disk.Relative
import CodeReview.Proofs.Report.Sections
import CodeReview.Proofs.Text.Occurrence
import CodeReview.Proofs.Text.Trimmed
import CodeReview.Proofs.Session.Logged
import CodeReview.Proofs.Chat.Recognised
import CodeReview.Proofs.Chat.Echo
import CodeReview.Proofs.Chat.TwoPages
import CodeReview.Proofs.Number.Order
import CodeReview.Proofs.Settings.Loaded
