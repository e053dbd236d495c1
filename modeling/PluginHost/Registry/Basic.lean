import PluginHost.Registry.Assembly

/-
This file holds the registry of a host. The plugins are assembled on the first question; from then
on only the services, the interceptors and the lists derived from them change.
-/

namespace PluginHost

structure Registry where
  discovery : Discovery
  factory : Factory
  assembly : Option Assembly := none
  interceptors : List ExchangerRecord := []
  services : List ExchangerRecord := []
  views : ViewCache ExchangerRecord := {}

namespace Registry

def create (discovery : Discovery) (sections : Sections) (world : World) : Registry :=
  { discovery := discovery, factory := { sections := sections, world := world } }

def world (registry : Registry) : World := registry.factory.world

def setWorld (registry : Registry) (world : World) : Registry :=
  { registry with factory := { registry.factory with world := world } }

def report (registry : Registry) (event : Log.Event) : Registry :=
  registry.setWorld (registry.world.report event)

/-- A second call finds everything in place. -/
def assemble (registry : Registry) : Assembly × Registry :=
  match registry.assembly with
  | some assembly => (assembly, registry)
  | none =>
    let result := Assembly.run registry.discovery registry.factory
    (result.assembly,
      { registry with
        factory := result.factory, assembly := some result.assembly
        interceptors := result.interceptors, services := result.services })

def assembled (registry : Registry) : Registry := registry.assemble.2

def enabledOnly (records : List ExchangerRecord) : List ExchangerRecord :=
  records.filter Record.enabled

def enabledServices (registry : Registry) : List ExchangerRecord × Registry :=
  let registry := registry.assembled
  (enabledOnly registry.services, registry)

def enabledInterceptors (registry : Registry) : List ExchangerRecord × Registry :=
  let registry := registry.assembled
  (enabledOnly registry.interceptors, registry)

/-- A lookup computes its list at most once between two changes. -/
def lookUp (registry : Registry) (service : Option String) (point : InterceptPoint) :
    ViewCache.Served ExchangerRecord World × Registry :=
  let registry := registry.assembled
  let served := registry.views.serve (service, point) registry.world fun cache world =>
    let (found, world) :=
      Interception.compute registry.interceptors registry.services service point world
    (found, cache, world)
  let registry := { registry with views := served.cache }.setWorld served.rest
  (served, if served.kept then registry else registry.report (ViewCache.notKept point))

def interceptorsFor (registry : Registry) (service : Option String) (point : InterceptPoint) :
    List ExchangerRecord × Registry :=
  let (served, registry) := registry.lookUp service point
  (served.view, registry)

/-- Two lookups in a row share their list if the second one finds it kept. -/
def sharesView (registry : Registry) (service : Option String) (point : InterceptPoint) :
    Bool × Registry :=
  let (_, registry) := registry.lookUp service point
  let (second, registry) := registry.lookUp service point
  (!second.computed, registry)

def addService (registry : Registry) (record : ExchangerRecord) : Registry :=
  let registry := registry.assembled.report
    (Assembly.event .debug "Adding service" [("service", .quoted record.name)])
  { registry with
    services := record.insertByPriority registry.services
    views := registry.views.invalidate }

def addInterceptor (registry : Registry) (record : ExchangerRecord) : Registry :=
  let registry := registry.assembled.report
    (Assembly.event .debug "Adding interceptor" [("interceptor", .quoted record.name)])
  { registry with
    interceptors := record.insertByPriority registry.interceptors
    views := registry.views.invalidate }

/-- The records that stay. When the predicate panics, the record it panicked on and those behind
it stay too. -/
def retain {ι : Type} (selects : Selection) :
    List (Record ι) → List (Record ι) × Option Panic
  | [] => ([], none)
  | record :: rest =>
    match selects record.card with
    | .error panic => (record :: rest, some panic)
    | .ok chosen =>
      let (others, panic) := retain selects rest
      (if chosen then others else record :: others, panic)

/-- A removal drops the lists found so far only when it ends and has removed something. -/
def removed (before after : List ExchangerRecord) (panic : Option Panic)
    (views : ViewCache ExchangerRecord) : Except Panic Nat × ViewCache ExchangerRecord :=
  match panic with
  | some panic => (.error panic, views)
  | none =>
    let count := before.length - after.length
    (.ok count, if 0 < count then views.invalidate else views)

def removeServices (registry : Registry) (selects : Selection) : Except Panic Nat × Registry :=
  let registry := registry.assembled
  let (kept, panic) := retain selects registry.services
  let (outcome, views) := removed registry.services kept panic registry.views
  (outcome, { registry with services := kept, views := views })

def removeInterceptors (registry : Registry) (selects : Selection) :
    Except Panic Nat × Registry :=
  let registry := registry.assembled
  let (kept, panic) := retain selects registry.interceptors
  let (outcome, views) := removed registry.interceptors kept panic registry.views
  (outcome, { registry with interceptors := kept, views := views })

/-- Gives a new plugin a place in the world and makes its record. -/
def enroll (registry : Registry) (descriptor : Descriptor) (sections : Sections)
    (face : Exchanger) : ExchangerRecord × Registry :=
  let (live, world) := registry.world.enroll descriptor.name face.toPlugin face
  (Record.make descriptor sections live, registry.setWorld world)

def authenticator (registry : Registry) (name : String) :
    Except PluginError (Record (Live Plugin)) × Registry :=
  let (assembly, registry) := registry.assemble
  match assembly.authenticators.find? fun record => record.name == name with
  | some record => (.ok record, registry)
  | none => (.error (.configuration name ("Authenticator " ++ name ++ " not found")), registry)

/-- The size of the cache can be asked without assembling anything. -/
def cachedViews (registry : Registry) : Nat := registry.views.size

end Registry

end PluginHost
