import ProcMeter.Cgroup
import ProcMeter.Command.Check
import ProcMeter.Command.Report
import ProcMeter.CommandLine.Arguments
import ProcMeter.CommandLine.Options
import ProcMeter.Config
import ProcMeter.Config.Form
import ProcMeter.Config.Load
import ProcMeter.Config.Printer
import ProcMeter.Counters
import ProcMeter.Decimal.Layout
import ProcMeter.Decimal.Literal
import ProcMeter.Decimal.Shortest
import ProcMeter.Dict
import ProcMeter.Engine
import ProcMeter.Fault
import ProcMeter.Files.Basic
import ProcMeter.Files.Errno
import ProcMeter.Files.Tree
import ProcMeter.Instant
import ProcMeter.Instant.Calendar
import ProcMeter.Instant.Rfc3339
import ProcMeter.Json.Basic
import ProcMeter.Json.Printer
import ProcMeter.Json.Reader
import ProcMeter.Json.Record
import ProcMeter.Machine
import ProcMeter.Main
import ProcMeter.Matcher
import ProcMeter.Network
import ProcMeter.Path
import ProcMeter.Pattern.Bracket
import ProcMeter.Pattern.Escape
import ProcMeter.Pattern.Reader
import ProcMeter.Pattern.Regex
import ProcMeter.Pattern.Weight
import ProcMeter.Process.Form
import ProcMeter.Process.State
import ProcMeter.Procfs.Facts
import ProcMeter.Procfs.Identity
import ProcMeter.Procfs.Reader
import ProcMeter.Procfs.Stat
import ProcMeter.Procfs.Statm
import ProcMeter.Program
import ProcMeter.Proofs.Accounting
import ProcMeter.Proofs.Baseline
import ProcMeter.Proofs.CacheTransparency
import ProcMeter.Proofs.Collaborators
import ProcMeter.Proofs.IdentityCache
import ProcMeter.Proofs.Invariant
import ProcMeter.Proofs.Isolation
import ProcMeter.Proofs.Locality
import ProcMeter.Proofs.Lockstep
import ProcMeter.Proofs.Order
import ProcMeter.Proofs.Presentation
import ProcMeter.Proofs.Refinement
import ProcMeter.Proofs.RegistryHistory
import ProcMeter.Proofs.Run
import ProcMeter.Proofs.Schedule
import ProcMeter.Proofs.Secrecy
import ProcMeter.Proofs.Simulation
import ProcMeter.Proofs.TopSelection
import ProcMeter.Proofs.Watching
import ProcMeter.Rate
import ProcMeter.Record
import ProcMeter.Registry
import ProcMeter.Resolver
import ProcMeter.Source
import ProcMeter.Table
import ProcMeter.Text.Blank
import ProcMeter.Text.Numeral
import ProcMeter.Text.Pieces
import ProcMeter.Text.Utf8
import ProcMeter.Toml.Document
import ProcMeter.Toml.Number
import ProcMeter.Toml.Printer
import ProcMeter.Toml.Quoting
import ProcMeter.Toml.Record
import ProcMeter.Toml.Token
import ProcMeter.Toml.Value
import ProcMeter.Top
import ProcMeter.Unicode.Age
import ProcMeter.Unicode.Boundary
import ProcMeter.Unicode.Category
import ProcMeter.Unicode.CharSet
import ProcMeter.Unicode.Folding
import ProcMeter.Unicode.Named
import ProcMeter.Unicode.Property
import ProcMeter.Unicode.Script
import ProcMeter.Unicode.ScriptExtensions
import ProcMeter.Yaml.Cursor
import ProcMeter.Yaml.Document
import ProcMeter.Yaml.Lexer
import ProcMeter.Yaml.Node
import ProcMeter.Yaml.Printer
import ProcMeter.Yaml.Quoting
import ProcMeter.Yaml.Record
import ProcMeter.Yaml.Scalar
import ProcMeter.Yaml.Token
import ProcMeter.Yaml.Untyped
import ProcMeter.Proofs.Numerals
import ProcMeter.Proofs.StatLine
import ProcMeter.Proofs.Words
import ProcMeter.Proofs.Records
import ProcMeter.Proofs.JsonValues
import ProcMeter.Proofs.RoundTrip
import ProcMeter.Proofs.ConfigFields
import ProcMeter.Proofs.Defaults
import ProcMeter.Proofs.JsonText
import ProcMeter.Proofs.Spellings
import ProcMeter.Proofs.Departure
import ProcMeter.Proofs.Listing
import ProcMeter.Proofs.StartTimes
import ProcMeter.Proofs.Utf8
import ProcMeter.Proofs.NameBytes
import ProcMeter.Proofs.NulTexts
import ProcMeter.Proofs.Environments
import ProcMeter.Proofs.Lines
import ProcMeter.Proofs.CounterFiles
import ProcMeter.Proofs.CounterFilter
import ProcMeter.Proofs.Memberships
import ProcMeter.Proofs.Deltas
import ProcMeter.Proofs.Acceptance
import ProcMeter.Proofs.CpuTime
import ProcMeter.Proofs.PathSteps
import ProcMeter.Proofs.SectionKeys
