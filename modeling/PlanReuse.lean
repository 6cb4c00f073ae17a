import PlanReuse.Algebra.Catalog
import PlanReuse.Algebra.Plan
import PlanReuse.Algebra.Scalar
import PlanReuse.Algebra.ScalarText
import PlanReuse.Benchmark.Suite
import PlanReuse.Context
import PlanReuse.Costing.Curve
import PlanReuse.Costing.Estimator
import PlanReuse.Costing.Placement
import PlanReuse.Costing.Sample
import PlanReuse.Device
import PlanReuse.Failure
import PlanReuse.Files
import PlanReuse.Hash.Sip
import PlanReuse.Hash.Stream
import PlanReuse.JoinTable.Basic
import PlanReuse.JoinTable.Build
import PlanReuse.Log
import PlanReuse.Log.Filter
import PlanReuse.Number.Arithmetic
import PlanReuse.Number.Binary64
import PlanReuse.Number.Read
import PlanReuse.Number.Shortest
import PlanReuse.Number.Word
import PlanReuse.Numbering.Basic
import PlanReuse.Numbering.Extraction
import PlanReuse.Numbering.Shape
import PlanReuse.Numbering.Signature
import PlanReuse.Pool.Basic
import PlanReuse.Pool.Budget
import PlanReuse.Pool.Key
import PlanReuse.Pool.Lines
import PlanReuse.Pool.Partition
import PlanReuse.Pool.Reuse
import PlanReuse.Pool.Tally
import PlanReuse.Pool.Usage
import PlanReuse.Report.Rows
import PlanReuse.Report.Samples
import PlanReuse.Script.Arithmetic
import PlanReuse.Script.Builtin
import PlanReuse.Script.Calendar
import PlanReuse.Script.Carrier
import PlanReuse.Script.Changes
import PlanReuse.Script.Command
import PlanReuse.Script.Condition
import PlanReuse.Script.DateText
import PlanReuse.Script.Digest.Block
import PlanReuse.Script.Digest.Plain
import PlanReuse.Script.Digest.Secure
import PlanReuse.Script.Disk
import PlanReuse.Script.Edit.Reader
import PlanReuse.Script.Edit.Replacing
import PlanReuse.Script.Edit.Run
import PlanReuse.Script.Edit.Syntax
import PlanReuse.Script.Expansion
import PlanReuse.Script.Format
import PlanReuse.Script.Host
import PlanReuse.Script.Number.Elementary
import PlanReuse.Script.Number.Extended
import PlanReuse.Script.Pattern
import PlanReuse.Script.Process
import PlanReuse.Script.Reader
import PlanReuse.Script.Redirection
import PlanReuse.Script.Regex
import PlanReuse.Script.Regex.Reader
import PlanReuse.Script.Regex.Rich
import PlanReuse.Script.Run
import PlanReuse.Script.Scan.Call
import PlanReuse.Script.Scan.Chance
import PlanReuse.Script.Scan.Reader
import PlanReuse.Script.Scan.Run
import PlanReuse.Script.Scan.State
import PlanReuse.Script.Scan.Syntax
import PlanReuse.Script.Scan.Token
import PlanReuse.Script.Scan.Value
import PlanReuse.Script.Session
import PlanReuse.Script.Signal
import PlanReuse.Script.State
import PlanReuse.Script.Text
import PlanReuse.Script.Tool.Basic
import PlanReuse.Script.Tool.Batches
import PlanReuse.Script.Tool.Blocks
import PlanReuse.Script.Tool.Characters
import PlanReuse.Script.Tool.Columns
import PlanReuse.Script.Tool.Comparison
import PlanReuse.Script.Tool.Digests
import PlanReuse.Script.Tool.Editing
import PlanReuse.Script.Tool.Encoding
import PlanReuse.Script.Tool.Expression
import PlanReuse.Script.Tool.Files
import PlanReuse.Script.Tool.Filling
import PlanReuse.Script.Tool.Lines
import PlanReuse.Script.Tool.Listing
import PlanReuse.Script.Tool.Matching
import PlanReuse.Script.Tool.Names
import PlanReuse.Script.Tool.Numbers
import PlanReuse.Script.Tool.Order
import PlanReuse.Script.Tool.Permissions
import PlanReuse.Script.Tool.Pieces
import PlanReuse.Script.Tool.Printing
import PlanReuse.Script.Tool.Search
import PlanReuse.Script.Tool.System
import PlanReuse.Script.Tool.Table
import PlanReuse.Script.Tool.Times
import PlanReuse.Settings.Basic
import PlanReuse.Settings.Text
import PlanReuse.Shared
import PlanReuse.Text.Blank
import PlanReuse.Text.Cut
import PlanReuse.Text.Hidden
import PlanReuse.Text.Quoted
import PlanReuse.Text.Uppercase
import PlanReuse.Toml.Document
import PlanReuse.Toml.Reader
import PlanReuse.Toml.Scalar
import PlanReuse.Toml.Text
import PlanReuse.Toml.Value
import PlanReuse.Toml.Writer
import PlanReuse.Proofs.Lookup
import PlanReuse.Proofs.Text.Boundary
import PlanReuse.Proofs.Text.Quotation
import PlanReuse.Proofs.Text.Words
import PlanReuse.Proofs.Algebra.Alike
import PlanReuse.Proofs.Algebra.Separation
import PlanReuse.Proofs.Algebra.ConstantText
import PlanReuse.Proofs.Algebra.Leading
import PlanReuse.Proofs.Algebra.Unambiguous
import PlanReuse.Proofs.Algebra.Reading
import PlanReuse.Proofs.Hash.Layout
import PlanReuse.Proofs.Numbering.Growth
import PlanReuse.Proofs.Numbering.History
import PlanReuse.Proofs.Numbering.Parameters
import PlanReuse.Proofs.Numbering.Memory
import PlanReuse.Proofs.Numbering.Identity
import PlanReuse.Proofs.Numbering.Sharing
import PlanReuse.Proofs.Numbering.Consistency
import PlanReuse.Proofs.Numbering.Later
import PlanReuse.Proofs.Numbering.Batch
import PlanReuse.Proofs.Numbering.Support
import PlanReuse.Proofs.Numbering.Segments
import PlanReuse.Proofs.Numbering.Trees
import PlanReuse.Proofs.Numbering.Digests
import PlanReuse.Proofs.Numbering.Maps
import PlanReuse.Proofs.Pool.Contents
import PlanReuse.Proofs.Pool.Changes
import PlanReuse.Proofs.Pool.History
import PlanReuse.Proofs.Pool.Accounting
import PlanReuse.Proofs.Pool.Limits
import PlanReuse.Proofs.Pool.Renumbering
import PlanReuse.Proofs.Pool.Cell
import PlanReuse.Proofs.Pool.Isolation
import PlanReuse.Proofs.Pool.KeyStream
import PlanReuse.Proofs.Pool.Ranking
import PlanReuse.Proofs.Pool.Eviction
import PlanReuse.Proofs.Pool.Counting
import PlanReuse.Proofs.Pool.Flow
import PlanReuse.Proofs.Pool.Conservation
import PlanReuse.Proofs.Pool.Ahead
import PlanReuse.Proofs.Pool.Retention
import PlanReuse.Proofs.Pool.Building
import PlanReuse.Proofs.Pool.Attempts
import PlanReuse.Proofs.Pool.Uses
import PlanReuse.Proofs.JoinTable.Filling
import PlanReuse.Proofs.JoinTable.Words
import PlanReuse.Proofs.JoinTable.Perfect
import PlanReuse.Proofs.JoinTable.Stretches
import PlanReuse.Proofs.JoinTable.Grouping
import PlanReuse.Proofs.JoinTable.Recovery
import PlanReuse.Proofs.Costing.SampleOrder
import PlanReuse.Proofs.Costing.Neighbours
import PlanReuse.Proofs.Costing.Selection
import PlanReuse.Proofs.Number.Difference
import PlanReuse.Proofs.Costing.Decisions
import PlanReuse.Proofs.Costing.Restriction
import PlanReuse.Proofs.Report.Faults
import PlanReuse.Proofs.Toml.Integers
import PlanReuse.Proofs.Toml.Strings
import PlanReuse.Proofs.Toml.Lines
import PlanReuse.Proofs.Text.Cutting
import PlanReuse.Proofs.Text.Trimming
import PlanReuse.Proofs.Log.Filter
import PlanReuse.Proofs.Benchmark.Survey
import PlanReuse.Proofs.Script.Walks
import PlanReuse.Proofs.Script.Files
import PlanReuse.Proofs.Toml.Sections
import PlanReuse.Proofs.Settings.RoundTrip
import PlanReuse.Proofs.Session.Runs
import PlanReuse.Proofs.Session.Provenance
import PlanReuse.Proofs.Session.Reset
