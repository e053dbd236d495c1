import PluginHost.Registry.Basic

/-
This file carries out what initializers ask of the registry.
-/

namespace PluginHost.Registry

/-- Only a removal can panic. -/
def carryOut (registry : Registry) : Request → Except Panic Answer × Registry
  | .services =>
    let (records, registry) := registry.enabledServices
    (.ok (.records (records.map Record.card)), registry)
  | .interceptors =>
    let (records, registry) := registry.enabledInterceptors
    (.ok (.records (records.map Record.card)), registry)
  | .interceptorsFor service point =>
    let (records, registry) := registry.interceptorsFor service point
    (.ok (.records (records.map Record.card)), registry)
  | .sharesView service point =>
    let (shared, registry) := registry.sharesView service point
    (.ok (.flag shared), registry)
  | .addService descriptor sections face =>
    let (record, registry) := registry.enroll descriptor sections face
    (.ok .done, registry.addService record)
  | .addInterceptor descriptor sections face =>
    let (record, registry) := registry.enroll descriptor sections face
    (.ok .done, registry.addInterceptor record)
  | .removeServices selects =>
    let (count, registry) := registry.removeServices selects
    (count.map .count, registry)
  | .removeInterceptors selects =>
    let (count, registry) := registry.removeInterceptors selects
    (count.map .count, registry)

/-- A panic of the registry's own call ends the program like one of the plugin. What the program
did before stays done. -/
def runProgram (initializer : Record (Live Initializer)) :
    Program → Registry → Outcome Unit × Registry
  | .finish outcome, registry => (outcome, registry)
  | .report event rest, registry => runProgram initializer rest (registry.report event)
  | .note label detail rest, registry =>
    runProgram initializer rest
      (registry.setWorld (registry.world.calledOn initializer.plugin.face.toPlugin
        (.note initializer.name label detail)))
  | .ask request next, registry =>
    match registry.carryOut request with
    | (.error panic, registry) => (.panicked panic, registry)
    | (.ok answer, registry) => runProgram initializer (next answer) registry

/-- Runs one initializer under its guard. -/
def runInitializer (registry : Registry) (initializer : Record (Live Initializer)) :
    Except PluginError Unit × Registry :=
  let face := initializer.plugin.face
  let world := registry.world.calledOn face.toPlugin (.init initializer.name)
  let program := face.init (world.memory initializer.plugin.id)
  let (outcome, registry) := runProgram initializer program (registry.setWorld world)
  (outcome.guarded initializer.name, registry)

end PluginHost.Registry
