import BuildEnv.Config.Printer
import BuildEnv.Main
import BuildEnv.Settings.MacroJson
import BuildEnv.Proofs.Path.Normal
import BuildEnv.Proofs.Settings.Containers
import BuildEnv.Proofs.Project.UnitTable
import BuildEnv.Proofs.Log.Resolution
import BuildEnv.Proofs.Log.Isolation
import BuildEnv.Proofs.Project.History
import BuildEnv.Proofs.Project.Merged
import BuildEnv.Proofs.Path.Resolution
import BuildEnv.Proofs.CommandLine.Windows
import BuildEnv.Proofs.Log.Call
import BuildEnv.Proofs.Project.Repetition
import BuildEnv.Proofs.Database.Agreement
import BuildEnv.Proofs.Project.Batch
import BuildEnv.Proofs.Switch.Walk
import BuildEnv.Proofs.Path.Absolute
import BuildEnv.Proofs.Log.Place
import BuildEnv.Proofs.Toolset.Layers
import BuildEnv.Proofs.Toolset.Catalog
import BuildEnv.Proofs.Session.SetUp
import BuildEnv.Proofs.Settings.MacroLine
import BuildEnv.Proofs.Json.Written
import BuildEnv.Proofs.Project.Naming
import BuildEnv.Proofs.Project.Report
import BuildEnv.Proofs.CommandLine.Quoting
import BuildEnv.Proofs.Switch.Composition
import BuildEnv.Proofs.Log.Arguments
import BuildEnv.Proofs.Switch.Table
import BuildEnv.Proofs.Switch.Met
import BuildEnv.Proofs.Switch.Decision
import BuildEnv.Proofs.Switch.LastSwitch
import BuildEnv.Proofs.Switch.Runtime
import BuildEnv.Proofs.Switch.Insertion
import BuildEnv.Proofs.Log.Announcement
import BuildEnv.Proofs.Log.Numbering
import BuildEnv.Proofs.Log.ExplicitMacros
import BuildEnv.Proofs.Path.Anchor
import BuildEnv.Proofs.Path.Canonical
import BuildEnv.Proofs.Database.SwitchOrder
import BuildEnv.Proofs.Settings.MacroHistory
import BuildEnv.Proofs.Switch.LongestSwitch
import BuildEnv.Proofs.Toolset.Language
import BuildEnv.Proofs.CommandLine.FirstWord
import BuildEnv.Proofs.Database.Dialect
import BuildEnv.Proofs.Log.LanguageVersion
import BuildEnv.Proofs.Settings.MacroGrammar
import BuildEnv.Proofs.Settings.SearchHistory
import BuildEnv.Proofs.Config.Problems
import BuildEnv.Proofs.Session.Precedence
import BuildEnv.Proofs.Text.Decimal
import BuildEnv.Proofs.Toolset.VersionText
import BuildEnv.Proofs.Charset.Utf8
import BuildEnv.Proofs.Json.Element
import BuildEnv.Proofs.Json.Compact
import BuildEnv.Proofs.Database.Written
import BuildEnv.Proofs.Log.Decoration
