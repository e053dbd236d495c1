import PluginHost.Json.Access
import PluginHost.Startup

/-
This file tells as JSON what the host knows of its plugins and of itself: descriptors and records,
how plugins and settings failed, which providers are valid, and what was logged.
-/

namespace PluginHost

def InjectionError.json (error : InjectionError) : Json :=
  .ofMembers [("error", .text error.kind), ("message", .text error.message)]

namespace PluginError

def members (error : PluginError) : List (String × Json) :=
  [("error", .text error.kind), ("message", .text error.message),
    ("chain", .strings (error.chain.map message)), ("root", .text error.root.message),
    ("missing_artifact", .flag error.isMissingArtifact)]

def json (error : PluginError) : Json := .ofMembers error.members

end PluginError

def Value.json (registryExists : Bool) : Value → Json
  | .text content => .text content
  | .tagged _ content => .text content
  | .count number => .integer number
  | .settings members => .object members
  | .registry bound => .ofMembers [("alive", .flag (bound && registryExists))]
  | .stream => .text "bytes"

namespace Record

variable {ι : Type}

def members (record : Record ι) : List (String × Json) :=
  [("name", .text record.name), ("description", .text record.registration.description),
    ("secure", .flag record.registration.secure),
    ("enabled_by_default", .flag record.registration.enabledByDefault),
    ("enabled", .flag record.enabled), ("implementation", .text record.implementation),
    ("config", .ofOption (record.config.map .object)),
    ("priority", .integer record.priority.toInt)]

def json (record : Record ι) : Json := .ofMembers record.members

def namesJson (records : List (Record ι)) : Json := .strings (records.map name)

end Record

def FieldInjection.json (injection : FieldInjection) : Json :=
  .strings [injection.field, injection.declaredType.name, injection.provider]

def MethodInjection.json (injection : MethodInjection) : Json :=
  .strings [injection.method, "PostConstruct", toString injection.identity.toNat]

def Registration.members (registration : Registration) : List (String × Json) :=
  [("name", .text registration.name), ("description", .text registration.description),
    ("priority", .integer registration.priority.toInt),
    ("enabled_by_default", .flag registration.enabledByDefault),
    ("secure", .flag registration.secure),
    ("intercept_point", .text registration.interceptPoint.name),
    ("init_point", .text registration.initPoint.name),
    ("dont_intercept", .strings (registration.dontIntercept.map InterceptPoint.name)),
    ("default_uri", .ofTextOption registration.defaultUri)]

def Candidate.json (candidate : Candidate) : Json :=
  let descriptor := candidate.descriptor
  .ofMembers <| descriptor.registration.members ++
    [("category", .text descriptor.category.label), ("class", .text descriptor.className),
      ("api_version", .integer descriptor.apiVersion.toNat),
      ("compatible", .flag (isCompatible descriptor.apiVersion)),
      ("has_constructor", .flag candidate.constructor.isSome),
      ("injections", .integer descriptor.injections.length),
      ("fields", .list (descriptor.fields.map FieldInjection.json)),
      ("methods", .list (descriptor.methods.map MethodInjection.json)),
      ("debug", .text candidate.debug)]

def Candidate.classJson (candidate : Candidate) : Json :=
  .strings [candidate.descriptor.className, candidate.name]

def Finding.json (finding : Finding) : Json :=
  .ofMembers [("provider", .text finding.provider), ("class", .text finding.className),
    ("kind", .text finding.cause.kind), ("cause", .text finding.cause.message)]

def Validation.members (validation : Validation) : List (String × Json) :=
  [("valid", .strings (validation.valid.map Descriptor.name)),
    ("valid_classes", .strings (validation.valid.map Descriptor.className)),
    ("findings", .list (validation.findings.map Finding.json)),
    ("load_order", .strings (validation.loadOrder.map Descriptor.name)),
    ("load_classes", .strings (validation.loadOrder.map Descriptor.className))]

def ValidProvider.json (provider : ValidProvider) : Json :=
  .strings [provider.className, provider.produced.name]

def InjectionFailure.json (failure : InjectionFailure) : Json :=
  .ofMembers <| failure.error.members ++
    [("plugin", .text failure.plugin), ("category", .text failure.category.label),
      ("text", .text failure.message), ("missing", .flag failure.error.isMissingArtifact)]

def InjectionReport.json (report : InjectionReport) : Json :=
  .ofMembers [("completed", .integer report.completed),
    ("failures", .list (report.failures.map InjectionFailure.json))]

def InitializerFailure.json (failure : InitializerFailure) : Json :=
  .ofMembers <| failure.error.members ++
    [("initializer", .text failure.initializer), ("point", .text failure.point.name),
      ("text", .text failure.message), ("hint", .flag failure.error.isMissingArtifact)]

def Stats.json (stats : Stats) : Json :=
  .ofMembers [("providers", .integer stats.providers),
    ("initializers", .integer stats.initializers),
    ("auth_mechanisms", .integer stats.authMechanisms), ("authorizers", .integer stats.authorizers),
    ("token_managers", .integer stats.tokenManagers),
    ("authenticators", .integer stats.authenticators),
    ("interceptors", .integer stats.interceptors), ("services", .integer stats.services),
    ("excluded_providers", .integer stats.excludedProviders),
    ("injection_failures", .integer stats.injectionFailures),
    ("initializer_failures", .integer stats.initializerFailures), ("text", .text stats.text)]

/-- Reads the counts; one that is not mentioned is zero. -/
def Stats.ofJson (value : Json) : Stats :=
  let count (name : String) : Nat := (value.member name).asInteger.toNat
  { providers := count "providers", initializers := count "initializers"
    authMechanisms := count "auth_mechanisms", authorizers := count "authorizers"
    tokenManagers := count "token_managers", authenticators := count "authenticators"
    interceptors := count "interceptors", services := count "services"
    excludedProviders := count "excluded_providers"
    injectionFailures := count "injection_failures"
    initializerFailures := count "initializer_failures" }

def SettingsError.json (error : SettingsError) : Json :=
  .ofMembers [("error", .text error.kind), ("message", .text error.message)]

/-- The outcome of a check: the warnings, each in both of its forms, or the error. -/
def SettingsWarning.resultJson (result : Except SettingsError (List SettingsWarning)) : Json :=
  match result with
  | .ok warnings => .list (warnings.map fun warning => .strings [warning.debug, warning.message])
  | .error error => error.json

def Profile.json (profile : Profile) : Json :=
  .ofMembers [("debug", .text profile.debug), ("display", .text profile.name),
    ("default", .flag (profile == .development))]

/-- A note is told as a part of the initialization it was made in. -/
def Call.json : Call → Json
  | .construct plugin => .strings ["construct", plugin]
  | .producedType provider => .strings ["produced_type", provider]
  | .produce provider consumer => .strings ["produce", provider, consumer]
  | .inject plugin field => .strings ["inject", plugin, field]
  | .invoke plugin method => .strings ["invoke", plugin, method]
  | .contract plugin => .strings ["contract", plugin]
  | .init plugin => .strings ["init", plugin]
  | .note plugin label detail => .list [.text "init", .text plugin, .text label, detail]

namespace Log

/-- Quotes around a field are left out. -/
def Field.json : Field → Json
  | .quoted text => .text text
  | .shown text => .text text
  | .integer value => .integer value
  | .flag value => .flag value

def Event.json (event : Event) : Json :=
  .list [.text event.level.upperName, .text event.message,
    .ofMembers (event.fields.map fun field => (field.1, field.2.json))]

end Log

namespace Resident

/-- Of slots with one name the last one is told. -/
def json (registryExists : Bool) (resident : Resident) : Json :=
  .ofMembers [("name", .text resident.name),
    ("slots", .ofMembers (resident.memory.slots.map fun slot =>
      (slot.1, .ofOption (slot.2.content.map (Value.json registryExists))))),
    ("calls", .ofMembers (resident.memory.calls.map fun call => (call.1, .integer call.2)))]

end Resident

namespace World

/-- What is shown of the residents. -/
def residentsJson (world : World) (registryExists : Bool) : Json :=
  .list <| (world.residents.filter fun resident => resident.plugin.visibility == .full).map
    (Resident.json registryExists)

def callsJson (world : World) : List Json :=
  (world.journal.filter JournalEntry.shown).map fun entry => entry.call.json

def events (world : World) : List Log.Event := world.log.filterMap Log.Entry.event?

/-- The calls and events up to now are told and need not be told again. -/
def told (world : World) : World := { world with journal := [], log := [] }

end World

end PluginHost
