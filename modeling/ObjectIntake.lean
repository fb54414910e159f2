import ObjectIntake.ChangeLog.Frame
import ObjectIntake.ChangeLog.Lakehouse
import ObjectIntake.ChangeLog.Memory
import ObjectIntake.ChangeLog.Platform
import ObjectIntake.Checkpoint.Given
import ObjectIntake.Checkpoint.Resolution
import ObjectIntake.Checkpoint.Store
import ObjectIntake.Checkpoint.Token
import ObjectIntake.Command.Action
import ObjectIntake.Command.Desk
import ObjectIntake.Command.Grammar
import ObjectIntake.Command.Help
import ObjectIntake.Command.Options
import ObjectIntake.Command.Run
import ObjectIntake.Command.Verb
import ObjectIntake.Console.CellWidth
import ObjectIntake.Console.CharWidth
import ObjectIntake.Console.Grid
import ObjectIntake.Console.Literal
import ObjectIntake.Console.Markup
import ObjectIntake.Console.Picture
import ObjectIntake.Console.PictureNames
import ObjectIntake.Console.Style
import ObjectIntake.Console.Wrap
import ObjectIntake.Dataset.Assembly
import ObjectIntake.Dataset.Options
import ObjectIntake.Dataset.Partition
import ObjectIntake.Dataset.Table
import ObjectIntake.Event.Condition
import ObjectIntake.Event.Predicate
import ObjectIntake.Event.Row
import ObjectIntake.Failure
import ObjectIntake.Fetch
import ObjectIntake.FileTree
import ObjectIntake.Journal
import ObjectIntake.Journal.Line
import ObjectIntake.Journal.Moment
import ObjectIntake.Journal.Setup
import ObjectIntake.Journal.Threshold
import ObjectIntake.Json.Basic
import ObjectIntake.Json.Printer
import ObjectIntake.Json.Reader
import ObjectIntake.Keyed
import ObjectIntake.Main
import ObjectIntake.Metrics
import ObjectIntake.Metrics.Exporter
import ObjectIntake.Numeral.Binary64
import ObjectIntake.Numeral.Fixed
import ObjectIntake.Numeral.Integer
import ObjectIntake.Numeral.Power
import ObjectIntake.Numeral.Shortest
import ObjectIntake.ObjectPath.Form
import ObjectIntake.ObjectPath.Survey
import ObjectIntake.Proofs.ChangeLog.Frame
import ObjectIntake.Proofs.ChangeLog.Memory
import ObjectIntake.Proofs.ChangeLog.ReadModes
import ObjectIntake.Proofs.ChangeLog.Session
import ObjectIntake.Proofs.ChangeLog.Tracking
import ObjectIntake.Proofs.Checkpoint.Attempts
import ObjectIntake.Proofs.Checkpoint.Damage
import ObjectIntake.Proofs.Checkpoint.Range
import ObjectIntake.Proofs.Checkpoint.Resolution
import ObjectIntake.Proofs.Checkpoint.Saving
import ObjectIntake.Proofs.Checkpoint.Store
import ObjectIntake.Proofs.Checkpoint.Token
import ObjectIntake.Proofs.Command.Desk
import ObjectIntake.Proofs.Command.Fetch
import ObjectIntake.Proofs.Command.Options
import ObjectIntake.Proofs.Command.RoundTrip
import ObjectIntake.Proofs.Command.Start
import ObjectIntake.Proofs.Dataset.Assembly
import ObjectIntake.Proofs.Dataset.Loading
import ObjectIntake.Proofs.Dataset.Partition
import ObjectIntake.Proofs.Dataset.Preparation
import ObjectIntake.Proofs.Event.Condition
import ObjectIntake.Proofs.Event.Predicate
import ObjectIntake.Proofs.Event.Reference
import ObjectIntake.Proofs.Fetch.Bookkeeping
import ObjectIntake.Proofs.Fetch.Consumer
import ObjectIntake.Proofs.Fetch.Drain
import ObjectIntake.Proofs.Fetch.Endings
import ObjectIntake.Proofs.Fetch.ExactlyOnce
import ObjectIntake.Proofs.Fetch.Handed
import ObjectIntake.Proofs.Fetch.Metered
import ObjectIntake.Proofs.Fetch.Moves
import ObjectIntake.Proofs.Fetch.Pipeline
import ObjectIntake.Proofs.Fetch.Postings
import ObjectIntake.Proofs.Fetch.Repeats
import ObjectIntake.Proofs.Fetch.Resumption
import ObjectIntake.Proofs.Fetch.Selection
import ObjectIntake.Proofs.Fetch.Taxonomy
import ObjectIntake.Proofs.FileTree
import ObjectIntake.Proofs.FileTree.Directories
import ObjectIntake.Proofs.FileTree.Sound
import ObjectIntake.Proofs.Journal.Line
import ObjectIntake.Proofs.Json.Completeness
import ObjectIntake.Proofs.Json.Grammar
import ObjectIntake.Proofs.Json.Lines
import ObjectIntake.Proofs.Json.Members
import ObjectIntake.Proofs.Json.Numbers
import ObjectIntake.Proofs.Json.Plain
import ObjectIntake.Proofs.Json.Soundness
import ObjectIntake.Proofs.Json.Strings
import ObjectIntake.Proofs.Keyed
import ObjectIntake.Proofs.Metrics
import ObjectIntake.Proofs.Metrics.Ledger
import ObjectIntake.Proofs.Numeral.Canonical
import ObjectIntake.Proofs.Numeral.Spelling
import ObjectIntake.Proofs.ObjectPath.Form
import ObjectIntake.Proofs.ObjectPath.Parts
import ObjectIntake.Proofs.ObjectPath.Survey
import ObjectIntake.Proofs.ObjectPath.Workers
import ObjectIntake.Proofs.Settings.Application
import ObjectIntake.Proofs.Settings.Extensions
import ObjectIntake.Proofs.Settings.Kind
import ObjectIntake.Proofs.Settings.Lax
import ObjectIntake.Proofs.Settings.Live
import ObjectIntake.Proofs.Settings.Properties
import ObjectIntake.Proofs.Settings.Source
import ObjectIntake.Proofs.Text.Blank
import ObjectIntake.Proofs.Text.Newline
import ObjectIntake.Proofs.Text.Search
import ObjectIntake.Proofs.Text.Utf8
import ObjectIntake.Proofs.Version.Backlog
import ObjectIntake.Proofs.Version.Extent
import ObjectIntake.Proofs.Version.Planning
import ObjectIntake.Proofs.Version.Tiling
import ObjectIntake.Proofs.Work
import ObjectIntake.Proofs.Work.Moves
import ObjectIntake.Proofs.Written
import ObjectIntake.Settings.Application
import ObjectIntake.Settings.Deployment
import ObjectIntake.Settings.DotEnv
import ObjectIntake.Settings.Lax
import ObjectIntake.Settings.Live
import ObjectIntake.Settings.Session
import ObjectIntake.Settings.Source
import ObjectIntake.Settings.Surroundings
import ObjectIntake.Settings.Violation
import ObjectIntake.Text.Blank
import ObjectIntake.Text.Digit
import ObjectIntake.Text.Likeness
import ObjectIntake.Text.Lowercase
import ObjectIntake.Text.Newline
import ObjectIntake.Text.Printable
import ObjectIntake.Text.Quoted
import ObjectIntake.Text.Ranges
import ObjectIntake.Text.Search
import ObjectIntake.Text.Template
import ObjectIntake.Text.Uppercase
import ObjectIntake.Text.Utf8
import ObjectIntake.Version.Range
import ObjectIntake.Work
