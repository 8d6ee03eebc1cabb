import ReleasePlanner.Branch
import ReleasePlanner.Catalog
import ReleasePlanner.Changelog
import ReleasePlanner.CommandLine.Invocation
import ReleasePlanner.CommandLine.Options
import ReleasePlanner.CommandLine.Program
import ReleasePlanner.CommandLine.Usage
import ReleasePlanner.Commit.Kind
import ReleasePlanner.Commit.Message
import ReleasePlanner.Commit.Parsed
import ReleasePlanner.Config.Basic
import ReleasePlanner.Config.Document
import ReleasePlanner.Config.Validate
import ReleasePlanner.Date
import ReleasePlanner.Display
import ReleasePlanner.Error
import ReleasePlanner.FileTree
import ReleasePlanner.Git.Ignore
import ReleasePlanner.Git.Merge
import ReleasePlanner.Git.Operations
import ReleasePlanner.Git.PathPattern
import ReleasePlanner.Git.Porcelain
import ReleasePlanner.Git.RefName
import ReleasePlanner.Git.Refspec
import ReleasePlanner.Git.Remote
import ReleasePlanner.Git.Revision
import ReleasePlanner.Git.Staging
import ReleasePlanner.Git.Store
import ReleasePlanner.Git.Walk
import ReleasePlanner.Hook.Point
import ReleasePlanner.Hook.Run
import ReleasePlanner.Lint.Linter
import ReleasePlanner.Lint.Report
import ReleasePlanner.Lint.Rule
import ReleasePlanner.Main
import ReleasePlanner.Prompt
import ReleasePlanner.Regex.Matcher
import ReleasePlanner.Regex.Parser
import ReleasePlanner.Regex.Property
import ReleasePlanner.Regex.Syntax
import ReleasePlanner.Release.Execute
import ReleasePlanner.Release.History
import ReleasePlanner.Release.Notes
import ReleasePlanner.Release.Plan
import ReleasePlanner.Repository.InMemory
import ReleasePlanner.Repository.Interface
import ReleasePlanner.Shell.Command
import ReleasePlanner.Shell.Condition
import ReleasePlanner.Shell.Expansion
import ReleasePlanner.Shell.Format
import ReleasePlanner.Shell.Parser
import ReleasePlanner.Shell.Run
import ReleasePlanner.Shell.Session
import ReleasePlanner.Shell.Token
import ReleasePlanner.Shell.Utility
import ReleasePlanner.Shell.Word
import ReleasePlanner.Step
import ReleasePlanner.Tag
import ReleasePlanner.Text.Blank
import ReleasePlanner.Text.Bytes
import ReleasePlanner.Text.CodeRange
import ReleasePlanner.Text.Decimal
import ReleasePlanner.Text.Glob
import ReleasePlanner.Text.Lines
import ReleasePlanner.Text.Placeholder
import ReleasePlanner.Text.Style
import ReleasePlanner.Text.ThreeWay
import ReleasePlanner.Text.Unicode.Category
import ReleasePlanner.Text.Unicode.Folding
import ReleasePlanner.Text.Unicode.Letter
import ReleasePlanner.Text.Unicode.Property
import ReleasePlanner.Text.Unicode.Script
import ReleasePlanner.Toml.Document
import ReleasePlanner.Toml.Printer
import ReleasePlanner.Toml.Scalar
import ReleasePlanner.Toml.Value
import ReleasePlanner.Version.Basic
import ReleasePlanner.Version.Level
import ReleasePlanner.Version.Order
import ReleasePlanner.Version.Parse
import ReleasePlanner.Warning
import ReleasePlanner.Workflow.Prepare
import ReleasePlanner.Workflow.Publish
import ReleasePlanner.Workflow.Run
import ReleasePlanner.Proofs.Text.Decimal
import ReleasePlanner.Proofs.Text.Pieces
import ReleasePlanner.Proofs.Text.Placeholder
import ReleasePlanner.Proofs.Version.Order
import ReleasePlanner.Proofs.Version.Written
import ReleasePlanner.Proofs.Catalog
import ReleasePlanner.Proofs.Repository.InMemory
import ReleasePlanner.Proofs.Step
import ReleasePlanner.Proofs.Hook
import ReleasePlanner.Proofs.Release.History
import ReleasePlanner.Proofs.Workflow.Preparation
import ReleasePlanner.Proofs.Workflow.Publishing
import ReleasePlanner.Proofs.Release.Plan
import ReleasePlanner.Proofs.Workflow.Runs
import ReleasePlanner.Proofs.Workflow.Growth
import ReleasePlanner.Proofs.Workflow.Succession
import ReleasePlanner.Proofs.Text.Line
import ReleasePlanner.Proofs.Release.OwnCommit
import ReleasePlanner.Proofs.Version.Precedence
import ReleasePlanner.Proofs.Release.Progress
import ReleasePlanner.Proofs.Commit.Header
import ReleasePlanner.Proofs.Text.Trim
import ReleasePlanner.Proofs.Commit.Layout
import ReleasePlanner.Proofs.Lint.Acceptance
import ReleasePlanner.Proofs.Workflow.Ledger
import ReleasePlanner.Proofs.Config.Rules
import ReleasePlanner.Proofs.Release.Notes
import ReleasePlanner.Proofs.Repository.Operations
import ReleasePlanner.Proofs.Repository.Ranges
import ReleasePlanner.Proofs.Workflow.Footprint
import ReleasePlanner.Proofs.Workflow.Repetition
import ReleasePlanner.Proofs.Workflow.Isolation
import ReleasePlanner.Proofs.Version.Levels
import ReleasePlanner.Proofs.Release.OwnLevel
import ReleasePlanner.Proofs.Workflow.Demand
import ReleasePlanner.Proofs.Changelog
import ReleasePlanner.Proofs.Workflow.Candidates
import ReleasePlanner.Proofs.Workflow.Promotion
import ReleasePlanner.Proofs.Workflow.Unpublished
import ReleasePlanner.Proofs.Repository.Assembly
import ReleasePlanner.Proofs.Workflow.Backmerge
import ReleasePlanner.Proofs.Workflow.Rejections
import ReleasePlanner.Proofs.Regex.Matcher
import ReleasePlanner.Proofs.Release.Neutral
import ReleasePlanner.Proofs.Workflow.Tolerance
import ReleasePlanner.Proofs.Commit.Reading
import ReleasePlanner.Proofs.Commit.Writing
import ReleasePlanner.Proofs.Lint.Bypass
import ReleasePlanner.Proofs.Lint.Rules
import ReleasePlanner.Proofs.Lint.Visible
import ReleasePlanner.Proofs.Release.Sections
import ReleasePlanner.Proofs.Release.Monotone
import ReleasePlanner.Proofs.Release.Series
import ReleasePlanner.Proofs.Version.Spelling
import ReleasePlanner.Proofs.Release.Latest
import ReleasePlanner.Proofs.Regex.Items
import ReleasePlanner.Proofs.Regex.Quoting
import ReleasePlanner.Proofs.Regex.Takes
import ReleasePlanner.Proofs.Version.Shape
import ReleasePlanner.Proofs.Tag
import ReleasePlanner.Proofs.Version.Reading
import ReleasePlanner.Proofs.Release.Template
import ReleasePlanner.Proofs.Changelog.Title
import ReleasePlanner.Proofs.Changelog.Releases
import ReleasePlanner.Proofs.Repository.Chronology
import ReleasePlanner.Proofs.Repository.Merges
import ReleasePlanner.Proofs.Workflow.Effects
import ReleasePlanner.Proofs.Workflow.Sequence
import ReleasePlanner.Proofs.Workflow.Order
import ReleasePlanner.Proofs.Toml.Reader
import ReleasePlanner.Proofs.Toml.Strings
import ReleasePlanner.Proofs.Toml.Values
import ReleasePlanner.Proofs.Toml.Lines
import ReleasePlanner.Proofs.Toml.Tables
import ReleasePlanner.Proofs.Toml.Integers
import ReleasePlanner.Proofs.Toml.Blocks
import ReleasePlanner.Proofs.Config.Document
import ReleasePlanner.Proofs.Config.Reload
import ReleasePlanner.Proofs.Repository.Traversal
import ReleasePlanner.Proofs.Repository.Graph
