import PluginHost.Discovery
import PluginHost.Registry.Builtin
import PluginHost.Interception

/-
This file assembles the plugins of a host: providers are built and validated, the other categories
follow in boot order, and at the end everything that waits is injected.
-/

namespace PluginHost

/-- What assembly settles once and for all. -/
structure Assembly where
  providers : List (Record (Live Provider))
  validation : Validation
  valid : ValidProviders
  initializers : List (Record (Live Initializer))
  authMechanisms : List (Record (Live Plugin))
  authorizers : List (Record (Live Plugin))
  tokenManager : Option (Record (Live Plugin))
  authenticators : List (Record (Live Plugin))
  report : InjectionReport

/-- The providers that survive, with the validation they survived. -/
structure ProviderSet where
  records : List (Record (Live Provider))
  validation : Validation
  valid : ValidProviders

namespace Assembly

def event (level : Log.Level) (message : String) (fields : List (String × Log.Field)) :
    Log.Event where
  level := level
  target := "tessera_engine::registry"
  message := message
  fields := fields

def reservedLog (listed : List Candidate) : List Log.Event :=
  (listed.filter fun candidate => Builtin.isReserved candidate.name).map fun candidate =>
    event .error "Provider name is reserved for a built-in provider, ignoring"
      [("provider", .quoted candidate.name), ("class", .shown candidate.descriptor.className)]

/-- A provider that is not valid is forgotten. -/
def keepValid (validation : Validation) :
    List (Built Provider) → Factory → List (Record (Live Provider)) × Factory
  | [], factory => ([], factory)
  | built :: rest, factory =>
    if validation.holdsClass built.descriptor.className then
      let (others, factory) := keepValid validation rest factory
      (built.record :: others, factory)
    else
      keepValid validation rest
        ((factory.report [event .debug "Dropping invalid provider"
          [("provider", .quoted built.record.name)]]).forget built.descriptor.className)

/-- The built-in providers come first, and every descriptor is validated, built or not. -/
def providerSet (discovery : Discovery) (factory : Factory) : ProviderSet × Factory :=
  let listed := discovery .provider
  let discovered := listed.filter fun candidate => !Builtin.isReserved candidate.name
  let factory := factory.report (reservedLog listed)
  let (builtins, factory) := Builtin.instantiate factory
  let (others, factory) := factory.instantiate Kind.providers .always discovered
  let graph := Graph.ofProviders (Builtin.descriptors ++ discovered.map Candidate.descriptor)
    factory.sections factory.types
  let validation := graph.validate
  let factory := factory.report (graph.validationLog validation)
  let (records, factory) := keepValid validation (builtins ++ others) factory
  let factory := validation.loadOrder.foldl Factory.enqueue factory
  (⟨records, validation, .ofValidation validation graph.types⟩, factory)

/-- Builds a category whose plugins may depend on valid providers only. -/
def category {ι : Type} (kind : Kind ι) (discovery : Discovery) (valid : ValidProviders)
    (factory : Factory) : List (Record (Live ι)) × Factory :=
  let condition : Factory.Condition := {
    holds := Precondition.holds valid factory.sections
    log := Precondition.log valid factory.sections }
  let (built, factory) := factory.instantiate kind condition (discovery kind.category)
  (built.map Built.record,
    (built.map Built.descriptor).foldl Factory.enqueue factory)

/-- The first token manager is used, and the others are mentioned. -/
def tokenManagerLog : List (Record (Live Plugin)) → List Log.Event
  | [] => []
  | first :: others => others.map fun other =>
    event .warn "Multiple token managers enabled, using the first"
      [("using", .quoted first.name), ("ignored", .quoted other.name)]

def assembledEvent (factory : Factory) (report : InjectionReport) : Log.Event :=
  event .info "Plugin registry assembled"
    [("plugins", .integer factory.records.length), ("injected", .integer report.completed),
      ("failed", .integer report.failures.length)]

/-- What an assembly leaves behind: the fixed part, and the two collections that may change. -/
structure Result where
  assembly : Assembly
  interceptors : List ExchangerRecord
  services : List ExchangerRecord
  factory : Factory

def run (discovery : Discovery) (factory : Factory) : Result :=
  let (set, factory) := providerSet discovery factory
  let (initializers, factory) := category Kind.initializers discovery set.valid factory
  let (authMechanisms, factory) := category Kind.authMechanisms discovery set.valid factory
  let (authorizers, factory) := category Kind.authorizers discovery set.valid factory
  let (tokenManagers, factory) := category Kind.tokenManagers discovery set.valid factory
  let factory := factory.report (tokenManagerLog tokenManagers)
  let (authenticators, factory) := category Kind.authenticators discovery set.valid factory
  let (interceptors, factory) := category Kind.interceptors discovery set.valid factory
  let (services, factory) := category Kind.services discovery set.valid factory
  let (pending, factory) := factory.drain
  let (report, world) := Injection.serveAll set.records pending factory.world
  let factory := { factory with world := world }
  { assembly :=
      { providers := set.records, validation := set.validation, valid := set.valid
        initializers, authMechanisms, authorizers
        tokenManager := tokenManagers.head?, authenticators, report }
    interceptors, services
    factory := factory.report [assembledEvent factory report] }

end Assembly

end PluginHost
