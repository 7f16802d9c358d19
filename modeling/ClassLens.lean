import ClassLens.Cache
import ClassLens.ClassIndex
import ClassLens.CommandLine
import ClassLens.Digest
import ClassLens.Document.Basic
import ClassLens.Document.Store
import ClassLens.Extraction.Extractor
import ClassLens.Extraction.Machine
import ClassLens.Extraction.Outcome
import ClassLens.FileTree
import ClassLens.Json.Basic
import ClassLens.Json.Draft
import ClassLens.Json.Lexeme
import ClassLens.Json.Printer
import ClassLens.Json.Token
import ClassLens.Lens
import ClassLens.Main
import ClassLens.Path
import ClassLens.Proofs.Cache.Eviction
import ClassLens.Proofs.Cache.Recency
import ClassLens.Proofs.Document.Boundaries
import ClassLens.Proofs.Document.Changes
import ClassLens.Proofs.Document.Lines
import ClassLens.Proofs.Document.Positions
import ClassLens.Proofs.Document.Synchronisation
import ClassLens.Proofs.Json.Layout
import ClassLens.Proofs.Json.Lexemes
import ClassLens.Proofs.Json.Trees
import ClassLens.Proofs.Lens.Coverage
import ClassLens.Proofs.Path.Evaluation
import ClassLens.Proofs.Resolve.Afresh
import ClassLens.Proofs.Resolve.Completion
import ClassLens.Proofs.Resolve.Dossiers
import ClassLens.Proofs.Resolve.Independence
import ClassLens.Proofs.Resolve.Provenance
import ClassLens.Proofs.Resolve.Repetition
import ClassLens.Proofs.Resolve.Reports
import ClassLens.Proofs.Resolve.Results
import ClassLens.Proofs.Resolve.Stages
import ClassLens.Proofs.Resolve.Staleness
import ClassLens.Proofs.Resolve.Steps
import ClassLens.Proofs.Resolve.Traffic
import ClassLens.Proofs.Resolve.Transparency
import ClassLens.Proofs.Resolve.Versions
import ClassLens.Proofs.Rule.Index
import ClassLens.Proofs.Rule.Schema
import ClassLens.Proofs.Rule.Texts
import ClassLens.Proofs.Selector.Classes
import ClassLens.Proofs.Selector.Written
import ClassLens.Proofs.Server.Agreement
import ClassLens.Proofs.Server.Alignment
import ClassLens.Proofs.Server.Arrival
import ClassLens.Proofs.Server.Configuration
import ClassLens.Proofs.Server.Course
import ClassLens.Proofs.Server.Deeds
import ClassLens.Proofs.Server.Freshness
import ClassLens.Proofs.Server.Handlers
import ClassLens.Proofs.Server.Lenses
import ClassLens.Proofs.Server.Residue
import ClassLens.Proofs.Server.Settings
import ClassLens.Proofs.Server.Sources
import ClassLens.Proofs.Server.Stylesheets
import ClassLens.Proofs.Session.Agents
import ClassLens.Proofs.Session.Application
import ClassLens.Proofs.Session.Bursts
import ClassLens.Proofs.Session.Course
import ClassLens.Proofs.Session.Currency
import ClassLens.Proofs.Session.Freshness
import ClassLens.Proofs.Session.Lines
import ClassLens.Proofs.Session.Residue
import ClassLens.Proofs.Session.Sources
import ClassLens.Proofs.Session.Tasks
import ClassLens.Proofs.Settings.Merging
import ClassLens.Proofs.Usage.Bindings
import ClassLens.Proofs.Usage.Imports
import ClassLens.Proofs.Usage.Selection
import ClassLens.Proofs.Usage.Sites
import ClassLens.Proofs.Usage.Statements
import ClassLens.Resolve.Failure
import ClassLens.Resolve.Location
import ClassLens.Resolve.Options
import ClassLens.Resolve.Resolver
import ClassLens.Resolve.Run
import ClassLens.Resolve.Stage
import ClassLens.Rule.Basic
import ClassLens.Rule.Decode
import ClassLens.Selector.ClassName
import ClassLens.Selector.Compound
import ClassLens.Server.Basic
import ClassLens.Server.Protocol
import ClassLens.Server.Step
import ClassLens.Session.Basic
import ClassLens.Session.Step
import ClassLens.Settings.Basic
import ClassLens.Settings.File
import ClassLens.Settings.Patch
import ClassLens.Shell.Arithmetic
import ClassLens.Shell.Braces
import ClassLens.Shell.Builtin
import ClassLens.Shell.Calculation
import ClassLens.Shell.Calendar
import ClassLens.Shell.Command
import ClassLens.Shell.Execution
import ClassLens.Shell.Expansion
import ClassLens.Shell.Extended.Judging
import ClassLens.Shell.Extended.Reading
import ClassLens.Shell.Extended.Session
import ClassLens.Shell.Extended.Variables
import ClassLens.Shell.Extended.Writing
import ClassLens.Shell.Floating
import ClassLens.Shell.Format
import ClassLens.Shell.Items
import ClassLens.Shell.Pattern
import ClassLens.Shell.Permissions
import ClassLens.Shell.Quoting
import ClassLens.Shell.Reader
import ClassLens.Shell.Redirection
import ClassLens.Shell.Reshaping
import ClassLens.Shell.State
import ClassLens.Shell.Test
import ClassLens.Simulation.Clock
import ClassLens.Simulation.Connection
import ClassLens.Simulation.Workbench
import ClassLens.Table
import ClassLens.Text.Blank
import ClassLens.Text.Measure
import ClassLens.Text.Utf8
import ClassLens.Text.WordChar
import ClassLens.Toml.Document
import ClassLens.Toml.Lexeme
import ClassLens.Toml.Scalar
import ClassLens.Tool.Basic
import ClassLens.Tool.Blocks
import ClassLens.Tool.Catalogue
import ClassLens.Tool.Checksum
import ClassLens.Tool.Checksum.Digest
import ClassLens.Tool.Columns
import ClassLens.Tool.Comparing
import ClassLens.Tool.Comparing.Changes
import ClassLens.Tool.Comparing.Report
import ClassLens.Tool.Compression
import ClassLens.Tool.Compression.Codes
import ClassLens.Tool.Compression.Deflate
import ClassLens.Tool.Compression.Inflate
import ClassLens.Tool.Compression.Members
import ClassLens.Tool.Copying
import ClassLens.Tool.Dates
import ClassLens.Tool.Dump
import ClassLens.Tool.Edit
import ClassLens.Tool.Edit.Run
import ClassLens.Tool.Edit.Script
import ClassLens.Tool.Encoding
import ClassLens.Tool.Facts
import ClassLens.Tool.Files
import ClassLens.Tool.Finding
import ClassLens.Tool.Finding.Syntax
import ClassLens.Tool.Launching
import ClassLens.Tool.Layout
import ClassLens.Tool.Listing
import ClassLens.Tool.Matching
import ClassLens.Tool.Modes
import ClassLens.Tool.Pairing
import ClassLens.Tool.Paths
import ClassLens.Tool.Records
import ClassLens.Tool.Records.Lexer
import ClassLens.Tool.Records.Machine
import ClassLens.Tool.Records.Reader
import ClassLens.Tool.Records.Run
import ClassLens.Tool.Records.Syntax
import ClassLens.Tool.Records.Value
import ClassLens.Tool.Regex
import ClassLens.Tool.Regex.Reader
import ClassLens.Tool.Regex.Rich
import ClassLens.Tool.Regex.RichReader
import ClassLens.Tool.Scripting
import ClassLens.Tool.Scripting.Cursor
import ClassLens.Tool.Scripting.Files
import ClassLens.Tool.Scripting.Functions
import ClassLens.Tool.Scripting.Handles
import ClassLens.Tool.Scripting.Lists
import ClassLens.Tool.Scripting.Machine
import ClassLens.Tool.Scripting.Matching
import ClassLens.Tool.Scripting.Reader
import ClassLens.Tool.Scripting.Review
import ClassLens.Tool.Scripting.Run
import ClassLens.Tool.Scripting.Sorting
import ClassLens.Tool.Scripting.Suspects
import ClassLens.Tool.Scripting.Syntax
import ClassLens.Tool.Scripting.Template
import ClassLens.Tool.Scripting.Value
import ClassLens.Tool.Search
import ClassLens.Tool.Search.Lines
import ClassLens.Tool.Sorting
import ClassLens.Tool.Status
import ClassLens.Tool.Translation
import ClassLens.Tool.Values
import ClassLens.Uri
import ClassLens.Usage.Import
import ClassLens.Usage.Scanner
