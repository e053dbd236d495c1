import PluginHost.Files
import PluginHost.Settings.Profile
import PluginHost.Settings.Reading
import PluginHost.Toml.Reading

/-
This file loads settings from their sources: defaults, files, environment variables and overrides.
Later sources lie over earlier ones, and the outcome is read and checked as a whole.
-/

namespace PluginHost

structure Surroundings where
  disk : Disk := {}
  environment : Environment := []

/-- Whole settings, or one value under a dotted key. -/
inductive Override where
  | whole (settings : Settings)
  | entry (key : String) (value : Json)

/-- An override has to be a table as a whole. -/
def Override.document : Override → Except Problem Document
  | .whole settings => .ok (.ofSettings (some .override) settings)
  | .entry key value =>
    let document := Document.ofJson (some .override) value
    match Document.nest (some .override) (key.splitOn ".") document with
    | .table origin members => .ok (.table origin members)
    | _ => .error (.wrongType document.shape "map")

structure Loader where
  profile : Profile := .development
  searchPaths : List Path := []
  usesEnvironment : Bool := true
  file : Option String := none
  overrides : List Override := []

namespace Loader

def baseName : String := "tessera.toml"

def profileName (profile : Profile) : String := "tessera." ++ profile.name ++ ".toml"

def create (environment : Environment) : Loader := { profile := .ofEnvironment environment }

def search (loader : Loader) (path : Path) : Loader :=
  { loader with searchPaths := loader.searchPaths ++ [path] }

def searchWorkingDirectory (loader : Loader) : Loader := loader.search .root

def userPath : Path := Path.userDirectory.join "tessera"

def searchUserDirectory (loader : Loader) : Loader := loader.search userPath

def override (loader : Loader) (override : Override) : Loader :=
  { loader with overrides := loader.overrides ++ [override] }

/-- Without any search path, the working directory comes before the one of the user. -/
def directories (loader : Loader) : List Path :=
  if loader.searchPaths.isEmpty then [.root, userPath] else loader.searchPaths

/-- Every path that a file may be looked for under. -/
def candidates (loader : Loader) : List Path :=
  match loader.file with
  | some path => [⟨path, false⟩]
  | none => loader.directories.flatMap fun directory =>
      [directory.join (profileName loader.profile), directory.join baseName]

inductive Found where
  | ofProfile (path : Path)
  | base (path : Path)
deriving DecidableEq, Repr

def Found.path : Found → Path
  | .ofProfile path => path
  | .base path => path

/-- The files of the profile up to the first directory with a base file, and that base file. -/
def find (disk : Disk) (profile : Profile) : List Path → List Found
  | [] => []
  | directory :: rest =>
    let special := directory.join (profileName profile)
    let base := directory.join baseName
    (if disk.holds special then [.ofProfile special] else []) ++
      if disk.holds base then [.base base] else find disk profile rest

def event (level : Log.Level) (message : String) (fields : List (String × Log.Field)) :
    Log.Event where
  level := level
  target := "tessera_runtime::config::loader"
  message := message
  fields := fields

def Found.event : Found → Log.Event
  | .ofProfile path =>
    Loader.event .debug "Loading profile-specific config" [("path", .shown path.display)]
  | .base path => Loader.event .info "Loading configuration file" [("path", .shown path.display)]

/-- The paths of the files to read, and what is reported of them. A file that is named has to
exist and to be in the one known format. -/
def files (loader : Loader) (disk : Disk) :
    Except SettingsError (List Path) × List Log.Event :=
  match loader.file.map fun path => (⟨path, false⟩ : Path) with
  | some path =>
    if !disk.holds path then (.error (.fileNotFound path.display), [])
    else
      let extension := path.extension
      (if extension = "toml" then .ok [path] else .error (.unsupportedFormat extension),
        [(Found.base path).event])
  | none =>
    let found := find disk loader.profile loader.directories
    (.ok (found.map Found.path),
      if found.isEmpty then
        let shown := loader.directories.map fun path => Text.quoted path.display
        [event .debug "No configuration file found, using defaults"
          [("paths", .shown (Text.bracketed shown))]]
      else found.map Found.event)

/-- A directory in the place of a file is an empty file. -/
def fileDocument? (disk : Disk) (path : Path) : Option Document :=
  let origin := some (Origin.file path.shown)
  match disk.content? path with
  | some content => Toml.read? origin content
  | none => some (.table origin [])

/-- Of several bad overrides the first and the last are mentioned. -/
def overrideMessage (problems : List Problem) : String :=
  String.intercalate "\n" <| match problems.map Problem.layeredMessage with
    | [] => []
    | [only] => [only]
    | first :: second :: rest => [first, (rest.getLast?).getD second]

def problems (overrides : List Override) : List Problem :=
  overrides.filterMap fun override =>
    match override.document with
    | .error problem => some problem
    | .ok _ => none

def layersOf (overrides : List Override) : List Document :=
  overrides.filterMap fun override => override.document.toOption

/-- Joins layers, the first one lowest. The result as a whole comes from no single source. -/
def join (layers : List Document) : Document :=
  match layers.foldl (fun lower upper => upper.laidOver lower) (.table none []) with
  | .table _ members => .table none members
  | other => other

/-- The joined sources, given the files. The overrides are joined among themselves first. -/
def document (loader : Loader) (surroundings : Surroundings) (paths : List Path) :
    Except SettingsError Document :=
  match paths.mapM (fileDocument? surroundings.disk) with
  | none => .error (.unreadable "TOML")
  | some files =>
    let found := problems loader.overrides
    if found.isEmpty then
      .ok <| join <| [Document.ofSettings (some .defaults) {}] ++ files ++
        (if loader.usesEnvironment then [surroundings.environment.document] else []) ++
        [join (layersOf loader.overrides)]
    else .error (.unreadable (overrideMessage found))

def warningEvent (warning : SettingsWarning) : Log.Event :=
  event .warn "Configuration warning" [("warning", .shown warning.message)]

def loadedEvent (loader : Loader) (settings : Settings) : Log.Event :=
  event .debug "Configuration loaded successfully"
    [("profile", .shown loader.profile.name), ("instance", .shown settings.instanceName),
      ("logging_level", .shown settings.logging.level.name),
      ("plugins", .integer settings.pluginArgs.length)]

/-- Reads and checks the joined sources. -/
def finish (loader : Loader) (document : Document) :
    Except SettingsError Settings × List Log.Event :=
  match Settings.read .layered document with
  | .error problem => (.error (.unreadable problem.layeredMessage), [])
  | .ok settings =>
    match settings.check with
    | .error problem => (.error problem, [])
    | .ok warnings =>
      (.ok settings, warnings.map warningEvent ++ [loader.loadedEvent settings])

def environmentLog (loader : Loader) : List Log.Event :=
  if loader.usesEnvironment then
    [event .trace "Loading environment variables" [("prefix", .shown Environment.hostPrefix)]]
  else []

def load (loader : Loader) (surroundings : Surroundings) :
    Except SettingsError Settings × List Log.Event :=
  let (paths, log) := loader.files surroundings.disk
  match paths with
  | .error problem => (.error problem, log)
  | .ok paths =>
    let log := log ++ loader.environmentLog
    match loader.document surroundings paths with
    | .error problem => (.error problem, log)
    | .ok document =>
      let (settings, further) := loader.finish document
      (settings, log ++ further)

end Loader

end PluginHost
