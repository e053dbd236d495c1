import PluginHost.Category
import PluginHost.Decimal.Layout
import PluginHost.Decimal.Limit
import PluginHost.Decimal.Reading
import PluginHost.Decimal.Shortest
import PluginHost.Declaration.Basic
import PluginHost.Declaration.Generics
import PluginHost.Declaration.Keys
import PluginHost.Declaration.Nesting
import PluginHost.Declaration.Problem
import PluginHost.Declaration.Token
import PluginHost.Declaration.TypePath
import PluginHost.Descriptor
import PluginHost.Discovery
import PluginHost.Exchange
import PluginHost.Factory
import PluginHost.Failure
import PluginHost.Files
import PluginHost.Gateway.Command
import PluginHost.Gateway.Plugins
import PluginHost.Graph.Basic
import PluginHost.Graph.Order
import PluginHost.Graph.Validation
import PluginHost.Greeting
import PluginHost.Injection
import PluginHost.Interception
import PluginHost.Json.Access
import PluginHost.Json.Basic
import PluginHost.Json.Reading
import PluginHost.Json.Text
import PluginHost.Log.Destination
import PluginHost.Log.Directive
import PluginHost.Log.Event
import PluginHost.Log.Filter
import PluginHost.Log.Layout
import PluginHost.Log.Pattern
import PluginHost.Log.Setup
import PluginHost.Main
import PluginHost.Plugin
import PluginHost.Points
import PluginHost.Precondition
import PluginHost.Proofs.Catalogue
import PluginHost.Proofs.Concurrency.Freshness
import PluginHost.Proofs.Concurrency.Steps
import PluginHost.Proofs.Concurrency.Tearing
import PluginHost.Proofs.Declaration.Keys
import PluginHost.Proofs.Declaration.Paths
import PluginHost.Proofs.Declaration.Table
import PluginHost.Proofs.Factory.Building
import PluginHost.Proofs.Factory.Construction
import PluginHost.Proofs.Factory.Housing
import PluginHost.Proofs.Factory.Priority
import PluginHost.Proofs.Factory.Waiting
import PluginHost.Proofs.Factory.Yield
import PluginHost.Proofs.Graph.Bystanders
import PluginHost.Proofs.Graph.Causes
import PluginHost.Proofs.Graph.Countdown
import PluginHost.Proofs.Graph.Cycles
import PluginHost.Proofs.Graph.Depth
import PluginHost.Proofs.Graph.Findings
import PluginHost.Proofs.Graph.Grounded
import PluginHost.Proofs.Graph.Layers
import PluginHost.Proofs.Graph.LoadOrder
import PluginHost.Proofs.Graph.Node
import PluginHost.Proofs.Graph.Order
import PluginHost.Proofs.Graph.Reduction
import PluginHost.Proofs.Graph.Release
import PluginHost.Proofs.Graph.Renumbering
import PluginHost.Proofs.Graph.Served
import PluginHost.Proofs.Graph.Turns
import PluginHost.Proofs.Graph.Validation
import PluginHost.Proofs.Injection
import PluginHost.Proofs.Interception
import PluginHost.Proofs.Lasting
import PluginHost.Proofs.Ordered
import PluginHost.Proofs.Precondition
import PluginHost.Proofs.Receipt
import PluginHost.Proofs.Registry.Absence
import PluginHost.Proofs.Registry.Agreement
import PluginHost.Proofs.Registry.Arrivals
import PluginHost.Proofs.Registry.Calling
import PluginHost.Proofs.Registry.Collections
import PluginHost.Proofs.Registry.Course
import PluginHost.Proofs.Registry.Interruption
import PluginHost.Proofs.Registry.Isolation
import PluginHost.Proofs.Registry.Listing
import PluginHost.Proofs.Registry.Privacy
import PluginHost.Proofs.Registry.Providers
import PluginHost.Proofs.Registry.Sight
import PluginHost.Proofs.Registry.Stages
import PluginHost.Proofs.Registry.Standing
import PluginHost.Proofs.Registry.Transparency
import PluginHost.Proofs.Registry.Visits
import PluginHost.Proofs.Reported
import PluginHost.Proofs.Serving
import PluginHost.Proofs.Sessions
import PluginHost.Proofs.Settings.Alias
import PluginHost.Proofs.Settings.Layers
import PluginHost.Proofs.Settings.Reading
import PluginHost.Proofs.Settings.Roots
import PluginHost.Proofs.Settings.Sources
import PluginHost.Proofs.Settings.Whole
import PluginHost.Proofs.Slots
import PluginHost.Proofs.Startup.Completion
import PluginHost.Proofs.Startup.Lifecycle
import PluginHost.Proofs.Startup.Passing
import PluginHost.Proofs.Startup.Preparation
import PluginHost.Proofs.Startup.Runs
import PluginHost.Proofs.Startup.Stage
import PluginHost.Proofs.Table
import PluginHost.Proofs.Twins
import PluginHost.Proofs.ViewCache
import PluginHost.Proofs.Wiring
import PluginHost.Proofs.World
import PluginHost.Proofs.Wrapping
import PluginHost.Proofs.WriteOnce
import PluginHost.Record
import PluginHost.Registry.Assembly
import PluginHost.Registry.Basic
import PluginHost.Registry.Builtin
import PluginHost.Registry.Program
import PluginHost.Report
import PluginHost.Scripted.Action
import PluginHost.Scripted.Plugin
import PluginHost.Scripted.Vocabulary
import PluginHost.Sections
import PluginHost.Settings.Basic
import PluginHost.Settings.Document
import PluginHost.Settings.Environment
import PluginHost.Settings.Loader
import PluginHost.Settings.Profile
import PluginHost.Settings.Reading
import PluginHost.Slot
import PluginHost.Startup
import PluginHost.Table
import PluginHost.Text.Alphanumeric
import PluginHost.Text.Blank
import PluginHost.Text.Hidden
import PluginHost.Text.Lowercase
import PluginHost.Text.Quoted
import PluginHost.Toml.Branch
import PluginHost.Toml.Date
import PluginHost.Toml.Number
import PluginHost.Toml.Reading
import PluginHost.Toml.Scan
import PluginHost.Toml.Text
import PluginHost.Wiring
import PluginHost.World
