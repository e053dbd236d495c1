import PluginHost.Sections
import PluginHost.Text.Blank

/-
This file holds the settings of a host and checks them.
-/

namespace PluginHost

inductive LogFormat where
  | compact
  | full
  | pretty
deriving DecidableEq, Repr

namespace LogFormat

def all : List LogFormat := [.compact, .full, .pretty]

def name : LogFormat → String
  | .compact => "compact"
  | .full => "full"
  | .pretty => "pretty"

def debug : LogFormat → String
  | .compact => "Compact"
  | .full => "Full"
  | .pretty => "Pretty"

end LogFormat

inductive LogOutput where
  | stdout
  | stderr
  | file
deriving DecidableEq, Repr

namespace LogOutput

def all : List LogOutput := [.stdout, .stderr, .file]

def name : LogOutput → String
  | .stdout => "stdout"
  | .stderr => "stderr"
  | .file => "file"

def debug : LogOutput → String
  | .stdout => "Stdout"
  | .stderr => "Stderr"
  | .file => "File"

end LogOutput

/-- Which moments of a span are written to the log. -/
structure SpanEvents where
  new : Bool := false
  enter : Bool := false
  exit : Bool := false
  close : Bool := false
deriving DecidableEq, Repr

namespace SpanEvents

def lifecycle : SpanEvents := { new := true, close := true }

def full : SpanEvents := { new := true, enter := true, exit := true, close := true }

def debug (events : SpanEvents) : String :=
  let text (flag : Bool) := if flag then "true" else "false"
  Text.labelled "SpanEvents" [("new", text events.new), ("enter", text events.enter),
    ("exit", text events.exit), ("close", text events.close)]

end SpanEvents

structure LogSettings where
  level : Log.Level := .info
  format : LogFormat := .compact
  output : LogOutput := .stdout
  filePath : Option String := none
  maxFiles : UInt32 := 5
  spanEvents : SpanEvents := {}
  threadIds : Bool := false
  fileLocation : Bool := false
  filters : Table Log.Level := []

/-- The arguments of a plugin may be any value; only an object has an effect. -/
structure Settings where
  instanceName : String := "default"
  logging : LogSettings := {}
  pluginArgs : Table Json := []

inductive SettingsError where
  | fileNotFound (path : String)
  | unsupportedFormat (extension : String)
  | unreadable (problem : String)
  | invalid (problem : String)
  | missingField (field : String)
deriving DecidableEq, Repr

namespace SettingsError

def message : SettingsError → String
  | .fileNotFound path => "Configuration file not found: " ++ path
  | .unsupportedFormat extension =>
    "Unsupported or disabled configuration file format: ." ++ extension
  | .unreadable problem => "Failed to parse configuration: " ++ problem
  | .invalid problem => "Invalid configuration: " ++ problem
  | .missingField field => "Missing required configuration field: " ++ field

def kind : SettingsError → String
  | .fileNotFound _ => "FileNotFound"
  | .unsupportedFormat _ => "UnsupportedFormat"
  | .unreadable _ => "ParseError"
  | .invalid _ => "ValidationError"
  | .missingField _ => "MissingField"

end SettingsError

inductive SettingsWarning where
  | pluginArgsNotMap (plugin : String)
  | emptyFilterModule
deriving DecidableEq, Repr

namespace SettingsWarning

def message : SettingsWarning → String
  | .pluginArgsNotMap plugin => s!"args of plugin '{plugin}' are not a map and will be ignored"
  | .emptyFilterModule => "logging filter with an empty module name"

def debug : SettingsWarning → String
  | .pluginArgsNotMap plugin =>
    Text.labelled "PluginArgsNotMap" [("plugin", Text.quoted plugin)]
  | .emptyFilterModule => "EmptyFilterModule"

end SettingsWarning

/-- The limit on old files matters only when there are files. -/
def LogSettings.check (logging : LogSettings) : Except SettingsError (List SettingsWarning) :=
  if logging.output = .file && logging.filePath.isNone then
    .error (.missingField "logging.file_path")
  else if logging.output = .file && logging.maxFiles = 0 then
    .error (.invalid "logging.max_files must be greater than 0 when logging to a file")
  else
    .ok (if logging.filters.any fun filter => Text.isAllBlank filter.1 then [.emptyFilterModule]
      else [])

namespace Settings

/-- Arguments that are no object are accepted with a warning each, in the order of the names. -/
def check (settings : Settings) : Except SettingsError (List SettingsWarning) :=
  if Text.isAllBlank settings.instanceName then .error (.missingField "instance_name")
  else
    settings.logging.check.map fun warnings =>
      warnings ++ settings.pluginArgs.filterMap fun entry =>
        match entry.2.members? with
        | some _ => none
        | none => some (.pluginArgsNotMap entry.1)

def sections (settings : Settings) : Sections := Sections.ofArguments settings.pluginArgs

def spanEventsJson (events : SpanEvents) : Json :=
  .ofMembers [("new", .flag events.new), ("enter", .flag events.enter),
    ("exit", .flag events.exit), ("close", .flag events.close)]

def loggingJson (logging : LogSettings) : Json :=
  .ofMembers [("level", .text logging.level.name), ("format", .text logging.format.name),
    ("output", .text logging.output.name),
    ("file_path", (logging.filePath.map Json.text).getD .null),
    ("max_files", .integer logging.maxFiles.toNat),
    ("span_events", spanEventsJson logging.spanEvents),
    ("thread_ids", .flag logging.threadIds), ("file_location", .flag logging.fileLocation),
    ("filters", .object (logging.filters.map fun filter => (filter.1, .text filter.2.name)))]

def json (settings : Settings) : Json :=
  .ofMembers [("instance_name", .text settings.instanceName),
    ("logging", loggingJson settings.logging), ("plugins_args", .object settings.pluginArgs)]

end Settings

end PluginHost
