import PluginHost.Registry.Program
import PluginHost.Settings.Loader

/-
This file takes a host through its startup. Booting assembles the registry and runs the early
initializers, and the rest run after startup; either happens at most once.
-/

namespace PluginHost

/-- An initializer that failed is left behind, and the others run all the same. -/
structure InitializerFailure where
  initializer : String
  point : InitPoint
  error : PluginError
deriving Repr

def InitializerFailure.message (failure : InitializerFailure) : String :=
  s!"initializer {failure.initializer} ({failure.point.name}): {failure.error.advice}"

/-- Services and interceptors are counted as far as they are enabled. -/
structure Stats where
  providers : Nat := 0
  initializers : Nat := 0
  authMechanisms : Nat := 0
  authorizers : Nat := 0
  tokenManagers : Nat := 0
  authenticators : Nat := 0
  interceptors : Nat := 0
  services : Nat := 0
  excludedProviders : Nat := 0
  injectionFailures : Nat := 0
  initializerFailures : Nat := 0
deriving DecidableEq, Repr

namespace Stats

def inPlace (stats : Stats) : List String :=
  [s!"{stats.providers} providers", s!"{stats.initializers} initializers",
    s!"{stats.authMechanisms} auth mechanisms", s!"{stats.authorizers} authorizers",
    s!"{stats.tokenManagers} token managers", s!"{stats.authenticators} authenticators",
    s!"{stats.interceptors} interceptors", s!"{stats.services} services"]

def failed (stats : Stats) : List String :=
  [s!"{stats.excludedProviders} providers excluded",
    s!"{stats.injectionFailures} injection failures",
    s!"{stats.initializerFailures} initializer failures"]

def text (stats : Stats) : String :=
  "Plugins: " ++ String.intercalate ", " stats.inPlace ++ "; " ++
    String.intercalate ", " stats.failed

end Stats

/-- The failures of each point are kept from the time its initializers have run. -/
structure Host where
  settings : Settings
  registry : Registry
  beforeStartup : Option (List InitializerFailure) := none
  afterStartup : Option (List InitializerFailure) := none

namespace Host

def target : String := "tessera_runtime::runtime"

def event (level : Log.Level) (message : String) (fields : List (String × Log.Field)) :
    Log.Event where
  level := level
  target := target
  message := message
  fields := fields

def createdEvent (settings : Settings) : Log.Event :=
  event .info "Runtime initialized from configuration"
    [("instance", .shown settings.instanceName), ("log_level", .shown settings.logging.level.name),
      ("plugins_configured", .integer settings.pluginArgs.length)]

/-- The world holds what went on before. -/
def create (discovery : Discovery) (settings : Settings) (world : World) : Host where
  settings := settings
  registry := .create discovery settings.sections
    (world.reportAll (createdEvent settings :: Sections.warnings settings.pluginArgs))

/-- Without settings that can be loaded, a host is created from the defaults. -/
def ofLoader (discovery : Discovery) (loader : Loader) (surroundings : Surroundings) : Host :=
  let (settings, log) := loader.load surroundings
  create discovery (settings.toOption.getD {}) (({} : World).reportAll log)

def isBooted (host : Host) : Bool := host.beforeStartup.isSome

def report (host : Host) (event : Log.Event) : Host :=
  { host with registry := host.registry.report event }

def mark (host : Host) (entry : Log.Entry) : Host :=
  { host with registry := host.registry.setWorld (host.registry.world.mark entry) }

def executedEvent (initializer : String) (point : InitPoint) : Log.Event :=
  event .debug "Executed initializer"
    [("initializer", .quoted initializer), ("point", .shown point.name)]

/-- Runs initializers in turn and gathers those that fail. -/
def runAll (point : InitPoint) :
    List (Record (Live Initializer)) → Registry → List InitializerFailure × Registry
  | [], registry => ([], registry)
  | initializer :: rest, registry =>
    match registry.runInitializer initializer with
    | (.ok (), registry) =>
      runAll point rest (registry.report (executedEvent initializer.name point))
    | (.error error, registry) =>
      let registry := registry.report
        (failureEvent .initializer initializer.name "Error executing" error)
      let (failures, registry) := runAll point rest registry
      (⟨initializer.name, point, error⟩ :: failures, registry)

/-- The initializers of one point, in ascending priority. -/
def runInitializers (registry : Registry) (point : InitPoint) :
    List InitializerFailure × Registry :=
  let (assembly, registry) := registry.assemble
  runAll point
    (assembly.initializers.filter fun record => record.registration.initPoint == point) registry

def bootSpan (settings : Settings) : Log.Span where
  level := .info
  target := target
  name := "boot"
  fields := [("instance", .shown settings.instanceName)]

def withoutDependencies (failed : Nat) : Log.Event :=
  event .warn "Some plugins were registered without their dependencies"
    [("failed", .integer failed)]

/-- The first call boots, and each call returns the failures of the first one. -/
def boot (host : Host) : List InitializerFailure × Host :=
  match host.beforeStartup with
  | some failures => (failures, host)
  | none =>
    let span := bootSpan host.settings
    let host := (host.mark (.opened span)).mark (.entered span)
    let (assembly, registry) := host.registry.assemble
    let failed := assembly.report.failures.length
    let registry := if failed = 0 then registry else registry.report (withoutDependencies failed)
    let (failures, registry) := runInitializers registry .beforeStartup
    (failures,
      { host with registry := registry, beforeStartup := some failures }.mark (.left span))

def failureCount (host : Host) : Nat :=
  (host.beforeStartup.getD []).length + (host.afterStartup.getD []).length

/-- Asking for the counts assembles the registry but boots nothing. -/
def stats (host : Host) : Stats × Host :=
  let (assembly, registry) := host.registry.assemble
  ({  providers := assembly.providers.length
      initializers := assembly.initializers.length
      authMechanisms := assembly.authMechanisms.length
      authorizers := assembly.authorizers.length
      tokenManagers := assembly.tokenManager.toList.length
      authenticators := assembly.authenticators.length
      interceptors := (Registry.enabledOnly registry.interceptors).length
      services := (Registry.enabledOnly registry.services).length
      excludedProviders := assembly.validation.findings.length
      injectionFailures := assembly.report.failures.length
      initializerFailures := host.failureCount },
    { host with registry := registry })

def completeEvent (stats : Stats) : Log.Event :=
  event .info "Startup complete" [("stats", .shown stats.text)]

/-- The counts that are reported do not hold the failures of this point yet. -/
def finishStartup (host : Host) : List InitializerFailure × Host :=
  let host := host.boot.2
  match host.afterStartup with
  | some failures => (failures, host)
  | none =>
    let (failures, registry) := runInitializers host.registry .afterStartup
    let (stats, host) := { host with registry := registry }.stats
    (failures, { host.report (completeEvent stats) with afterStartup := some failures })

end Host

end PluginHost
