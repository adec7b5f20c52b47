import Stagewright.Code.Line
import Stagewright.Code.Local
import Stagewright.Code.Plan
import Stagewright.Code.Program
import Stagewright.Code.Statement
import Stagewright.Code.Workshop
import Stagewright.Command.Arguments
import Stagewright.Command.Display
import Stagewright.Command.FileTree
import Stagewright.Command.Problem
import Stagewright.Command.Run
import Stagewright.Connection.Credentials
import Stagewright.Connection.Mode
import Stagewright.Connection.Planner
import Stagewright.Connection.Registration
import Stagewright.Connection.Strategy
import Stagewright.Console.CellTable
import Stagewright.Console.Cells
import Stagewright.Console.Plain
import Stagewright.Console.Table
import Stagewright.Console.Wrap
import Stagewright.Demand
import Stagewright.Generation
import Stagewright.Job.Basic
import Stagewright.Job.Document
import Stagewright.Job.File
import Stagewright.Job.Settings
import Stagewright.Job.Stage
import Stagewright.Job.View
import Stagewright.Lifecycle
import Stagewright.Log.Configuration
import Stagewright.Log.Record
import Stagewright.Number.Binary64
import Stagewright.Number.Shortest
import Stagewright.Proofs.Attempt
import Stagewright.Proofs.Code.Annotation
import Stagewright.Proofs.Code.Bench
import Stagewright.Proofs.Code.Growth
import Stagewright.Proofs.Code.Integrity
import Stagewright.Proofs.Code.Plan
import Stagewright.Proofs.Code.Position
import Stagewright.Proofs.Code.Scope
import Stagewright.Proofs.Code.Wording
import Stagewright.Proofs.Code.Workshop
import Stagewright.Proofs.Connection.Course
import Stagewright.Proofs.Connection.Walk
import Stagewright.Proofs.Demand
import Stagewright.Proofs.Generation.Acceptance
import Stagewright.Proofs.Generation.Demands
import Stagewright.Proofs.Generation.Fragment
import Stagewright.Proofs.Generation.Logging
import Stagewright.Proofs.Generation.Published
import Stagewright.Proofs.Generation.Scope
import Stagewright.Proofs.Generation.Vocabulary
import Stagewright.Proofs.Job.Accepted
import Stagewright.Proofs.Job.Entry
import Stagewright.Proofs.Job.Resolved
import Stagewright.Proofs.Job.Described
import Stagewright.Proofs.Lifecycle.Parts
import Stagewright.Proofs.Lifecycle.Script
import Stagewright.Proofs.Text.Identifier
import Stagewright.Proofs.Text.Symbol
import Stagewright.Proofs.Validation.Agreement
import Stagewright.Proofs.Validation.References
import Stagewright.Proofs.Value.Dict
import Stagewright.Proofs.Value.Excess
import Stagewright.Proofs.Variable.Mention
import Stagewright.Session.Basic
import Stagewright.Session.Module
import Stagewright.Session.StandIn
import Stagewright.Session.World
import Stagewright.Text.Blank
import Stagewright.Text.CapitalTable
import Stagewright.Text.Case
import Stagewright.Text.CaseTable
import Stagewright.Text.Decimal
import Stagewright.Text.Identifier
import Stagewright.Text.IdentifierTable
import Stagewright.Text.Lines
import Stagewright.Text.PrintableTable
import Stagewright.Text.Quoted
import Stagewright.Text.Runs
import Stagewright.Text.Search
import Stagewright.Text.Symbol
import Stagewright.Text.Utf8
import Stagewright.Validation
import Stagewright.Value.Basic
import Stagewright.Value.Calendar
import Stagewright.Value.Dict
import Stagewright.Value.Excess
import Stagewright.Value.Explained
import Stagewright.Value.Spelling
import Stagewright.Variable.Assignment
import Stagewright.Variable.Reach
import Stagewright.Variable.Reference
import Stagewright.Variable.Substitution
import Stagewright.Yaml.BlockText
import Stagewright.Yaml.Cursor
import Stagewright.Yaml.Document
import Stagewright.Yaml.Moment
import Stagewright.Yaml.Node
import Stagewright.Yaml.Object
import Stagewright.Yaml.PlainText
import Stagewright.Yaml.Property
import Stagewright.Yaml.QuotedText
import Stagewright.Yaml.Scalar
import Stagewright.Yaml.Source
import Stagewright.Yaml.Tag
import Stagewright.Yaml.Token
import Stagewright.Yaml.Tokens
import Stagewright.Main
import Stagewright.Proofs.Variable.Scan
import Stagewright.Proofs.Value.Tree
import Stagewright.Proofs.Variable.Recognition
import Stagewright.Proofs.Variable.Splice
import Stagewright.Proofs.Variable.Reach
import Stagewright.Proofs.Variable.Resolution
import Stagewright.Proofs.Code.Collision
import Stagewright.Proofs.Generation.Agreement
import Stagewright.Proofs.Generation.Secrecy
import Stagewright.Proofs.Text.Lines
import Stagewright.Proofs.Text.Printable
import Stagewright.Proofs.Value.Spelling
import Stagewright.Proofs.Generation.Sources
import Stagewright.Proofs.Code.Reading
import Stagewright.Proofs.Generation.Reading
import Stagewright.Proofs.Text.Quoting
import Stagewright.Proofs.Generation.Quoting
import Stagewright.Proofs.Generation.Exclusivity
import Stagewright.Proofs.Session.Work
import Stagewright.Proofs.Session.Call
import Stagewright.Proofs.Session.Acquisition
import Stagewright.Proofs.Session.Closing
import Stagewright.Proofs.Session.Course
import Stagewright.Proofs.Session.Sharing
import Stagewright.Proofs.Session.Custody
import Stagewright.Proofs.Code.Opening
import Stagewright.Proofs.Code.Layout
import Stagewright.Proofs.Generation.Layout
import Stagewright.Proofs.Generation.Opening
import Stagewright.Proofs.Connection.Milestones
import Stagewright.Proofs.Generation.Milestones
import Stagewright.Proofs.Generation.Composition
import Stagewright.Proofs.Variable.Precedence
import Stagewright.Proofs.Job.Environment
import Stagewright.Proofs.Validation.Slots
import Stagewright.Proofs.Generation.Absence
import Stagewright.Proofs.Generation.Bracket
import Stagewright.Proofs.Connection.Parts
import Stagewright.Proofs.Connection.Run
import Stagewright.Proofs.Connection.Credentials
import Stagewright.Proofs.Connection.Failure
import Stagewright.Proofs.Generation.Gaps
import Stagewright.Proofs.Session.Autocommit
import Stagewright.Proofs.Job.Prefix
import Stagewright.Proofs.Validation.Autocommit
import Stagewright.Proofs.Validation.Prefix
import Stagewright.Proofs.Yaml.Lexical
import Stagewright.Proofs.Yaml.Tokens
import Stagewright.Proofs.Yaml.Node
import Stagewright.Proofs.Yaml.Object
import Stagewright.Proofs.Yaml.Scalar
import Stagewright.Proofs.Yaml.Document
import Stagewright.Proofs.Job.Loading
import Stagewright.Proofs.Session.Drivers
import Stagewright.Proofs.Variable.Unquoting
import Stagewright.Proofs.Log.Configuration
import Stagewright.Proofs.Text.Literal
import Stagewright.Proofs.Code.Names
import Stagewright.Proofs.Command.Assignment
import Stagewright.Proofs.Generation.Keys
