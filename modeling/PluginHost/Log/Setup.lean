import PluginHost.Log.Filter
import PluginHost.Settings.Environment

/-
This file holds how the log is set up: what is let through, and where and in which layout it is
written.
-/

namespace PluginHost.Log

structure Setup where
  directives : List String := []
  level : Level := .info
  spanEvents : SpanEvents := {}
  format : LogFormat := .compact
  output : LogOutput := .stdout
  showsTarget : Bool := true
  showsThread : Bool := false
  showsFile : Bool := false
  showsLine : Bool := false
  filePath : Option String := none
  maxFiles : Nat := 5

/-- The level as it is shown among the parts of a setup. -/
def Level.shownName : Level → String
  | .trace => "Trace"
  | .debug => "Debug"
  | .info => "Info"
  | .warn => "Warn"
  | .error => "Error"

namespace Setup

/-- The filters become directives in the order of their targets. -/
def ofSettings (settings : LogSettings) : Setup where
  directives := settings.filters.map fun filter => filter.1 ++ "=" ++ filter.2.name
  level := settings.level
  spanEvents := settings.spanEvents
  format := settings.format
  output := settings.output
  showsThread := settings.threadIds
  showsFile := settings.fileLocation
  showsLine := settings.fileLocation
  filePath := settings.filePath
  maxFiles := settings.maxFiles.toNat

def debug (setup : Setup) : String :=
  let flag (value : Bool) := if value then "true" else "false"
  Text.labelled "LoggingBuilder"
    [("directives", Text.bracketed (setup.directives.map Text.quoted)),
      ("level", "Level(" ++ setup.level.shownName ++ ")"),
      ("span_events", setup.spanEvents.debug), ("format", setup.format.debug),
      ("output", setup.output.debug), ("with_target", flag setup.showsTarget),
      ("with_thread_ids", flag setup.showsThread), ("with_file", flag setup.showsFile),
      ("with_line_number", flag setup.showsLine),
      ("file_path", Text.optional (setup.filePath.map Text.quoted)),
      ("max_files", toString setup.maxFiles)]

/-- The variable whose directives take the place of the level. -/
def variableName : String := "RUST_LOG"

/-- Directives in the environment count only as a whole. -/
def base (setup : Setup) (environment : Environment) : Filter :=
  ((environment.find? variableName).bind Filter.read?).getD (.ofLevel setup.level)

def filter (setup : Setup) (environment : Environment) : Filter :=
  (setup.directives.filterMap Directive.read?).foldl Filter.add (setup.base environment)

/-- What is said of directives that cannot be read. -/
def complaints (setup : Setup) : List String :=
  setup.directives.filterMap fun text =>
    match Directive.read text with
    | .ok _ => none
    | .error error => some s!"Ignoring invalid log directive '{text}': {error.message}"

end Setup

end PluginHost.Log
