import PluginHost.Factory

/-
This file serves the plugins that wait for injection. The fields of a plugin are filled in the
order of their declaration, then its hooks run; the first failure ends the injection of that plugin
and of no other.
-/

namespace PluginHost

structure InjectionFailure where
  plugin : String
  category : Category
  error : PluginError
deriving Repr

def InjectionFailure.message (failure : InjectionFailure) : String :=
  failure.category.label ++ " " ++ failure.plugin ++ ": " ++ failure.error.advice

structure InjectionReport where
  completed : Nat := 0
  failures : List InjectionFailure := []

namespace Injection

abbrev ProviderRecord := Record (Live Provider)

/-- Of enabled providers with one name the first one serves. -/
def provider? (providers : List ProviderRecord) (name : String) : Option ProviderRecord :=
  providers.find? fun record => record.enabled && record.name == name

def event (level : Log.Level) (message : String) (fields : List (String × Log.Field)) :
    Log.Event where
  level := level
  target := "tessera_engine::injector"
  message := message
  fields := fields

/-- Asks a provider for a value under the guard of the consumer. -/
def produce (world : World) (provider : ProviderRecord) (plugin : String)
    (consumer : Record (Live Plugin)) : Except PluginError Provided × World :=
  let face := provider.plugin.face
  let world := world.calledOn face.toPlugin (.produce provider.name consumer.name)
  let reply := face.produce (consumer.map Live.face) (world.memory provider.plugin.id)
  (reply.outcome.guarded plugin, world.settle provider.plugin.id reply)

/-- Puts a value into a slot of the consumer. -/
def deliver (world : World) (consumer : Record (Live Plugin)) (field : String)
    (value : Provided) : Except InjectionError Unit × World :=
  let world := world.calledOn consumer.plugin.face (.inject consumer.name field)
  let memory := world.memory consumer.plugin.id
  match memory.slots.inject field value with
  | .ok slots => (.ok (), world.setMemory consumer.plugin.id { memory with slots := slots })
  | .error error => (.error error, world)

def fillField (providers : List ProviderRecord) (descriptor : Descriptor)
    (consumer : Record (Live Plugin)) (field : FieldInjection) (world : World) :
    Except PluginError Unit × World :=
  match provider? providers field.provider with
  | none => (.error (.noProvider descriptor.name field.field field.provider), world)
  | some provider =>
    match produce world provider descriptor.name consumer with
    | (.error error, world) =>
      (.error (.causedConfiguration descriptor.name
        ("provider '" ++ field.provider ++ "' failed to produce a value") error), world)
    | (.ok value, world) =>
      match deliver world consumer field.field value with
      | (.error error, world) =>
        (.error (.causedConfiguration descriptor.name
          ("cannot inject field '" ++ field.field ++ "'") (.injection error)), world)
      | (.ok (), world) =>
        (.ok (), world.report (event .trace "Injected field"
          [("plugin", .quoted descriptor.name), ("field", .quoted field.field),
            ("provider", .quoted field.provider)]))

def fillFields (providers : List ProviderRecord) (descriptor : Descriptor)
    (consumer : Record (Live Plugin)) :
    List FieldInjection → World → Except PluginError Unit × World
  | [], world => (.ok (), world)
  | field :: rest, world =>
    match fillField providers descriptor consumer field world with
    | (.error error, world) => (.error error, world)
    | (.ok (), world) => fillFields providers descriptor consumer rest world

/-- A method that is tagged several times is not invoked at all. -/
def timesTagged (descriptor : Descriptor) (hook : MethodInjection) : Nat :=
  (descriptor.methods.filter fun other => other.identity == hook.identity).length

/-- Calls a hook. A call is counted however it ends. -/
def invoke (world : World) (consumer : Record (Live Plugin)) (method : String) :
    Option (Outcome Unit) × World :=
  let face := consumer.plugin.face
  let world := world.calledOn face (.invoke consumer.name method)
  match face.hook? method with
  | none => (none, world)
  | some run =>
    let reply := run ((world.memory consumer.plugin.id).countCall method)
    (some reply.outcome, world.settle consumer.plugin.id reply)

def runHook (descriptor : Descriptor) (consumer : Record (Live Plugin))
    (hook : MethodInjection) (world : World) : Except PluginError Unit × World :=
  let tagged := timesTagged descriptor hook
  let plugin := ("plugin", Log.Field.quoted descriptor.name)
  let method := ("method", Log.Field.quoted hook.method)
  if tagged ≠ 1 then
    (.ok (), world.report (event .debug
      "Lifecycle method tagged more than once, not invoking"
      [plugin, method, ("mapped", .integer tagged)]))
  else
    match invoke world consumer hook.method with
    | (none, world) =>
      (.error (.configuration descriptor.name
        ("post-construct method not found, expected `fn " ++ hook.method ++
          "(&self) -> Result<(), PluginError>`")), world)
    | (some (.panicked panic), world) =>
      (.error (.panicked descriptor.name panic.message), world)
    | (some (.failed error), world) =>
      (.error (.causedConfiguration descriptor.name
        ("error executing post-construct method `" ++ hook.method ++ "`") error), world)
    | (some (.done ()), world) =>
      (.ok (), world.report (event .debug "Ran post-construct method" [plugin, method]))

def runHooks (descriptor : Descriptor) (consumer : Record (Live Plugin)) :
    List MethodInjection → World → Except PluginError Unit × World
  | [], world => (.ok (), world)
  | hook :: rest, world =>
    match runHook descriptor consumer hook world with
    | (.error error, world) => (.error error, world)
    | (.ok (), world) => runHooks descriptor consumer rest world

/-- Serves one plugin: all of its fields, then all of its hooks. -/
def serve (providers : List ProviderRecord) (pending : Pending) (world : World) :
    Except PluginError Unit × World :=
  match fillFields providers pending.descriptor pending.record pending.descriptor.fields world with
  | (.error error, world) => (.error error, world)
  | (.ok (), world) => runHooks pending.descriptor pending.record pending.descriptor.methods world

/-- Serves every plugin that waits, in order. -/
def serveAll (providers : List ProviderRecord) :
    List Pending → World → InjectionReport × World
  | [], world => ({}, world)
  | pending :: rest, world =>
    match serve providers pending world with
    | (.ok (), world) =>
      let (report, world) := serveAll providers rest world
      ({ report with completed := report.completed + 1 }, world)
    | (.error error, world) =>
      let category := pending.descriptor.category
      let name := pending.descriptor.name
      let world := world.report
        (failureEvent category name "Error injecting dependencies into" error)
      let (report, world) := serveAll providers rest world
      ({ report with failures := ⟨name, category, error⟩ :: report.failures }, world)

end Injection

end PluginHost
