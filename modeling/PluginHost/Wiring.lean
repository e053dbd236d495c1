import PluginHost.Plugin

/-
This file holds how a plugin is wired: the fields it wants filled and the hooks it wants called.
From its wiring follow the injection points of a plugin and the slots and hooks of its instances.
-/

namespace PluginHost

/-- The title is the name of the implementation within its module. -/
structure Wiring where
  title : String
  fields : List FieldInjection := []
  hooks : List String := []
deriving DecidableEq, Repr

namespace Wiring

/-- A hook is told from others by the title and its own name. -/
def hookKey (wiring : Wiring) (method : String) : String := wiring.title ++ "::" ++ method

/-- The fields come before the hooks, and a repeated hook is listed again. -/
def injections (wiring : Wiring) : List InjectionPoint :=
  wiring.fields.map .field ++
    wiring.hooks.map fun method => .method ⟨method, identityOf (wiring.hookKey method)⟩

def slots (wiring : Wiring) : List (String × TypeInfo) :=
  wiring.fields.map fun field => (field.field, field.declaredType)

/-- Only the hooks of the wiring can be called. -/
def plugin (wiring : Wiring) (run : String → Memory → Reply Unit) : Plugin where
  slots := wiring.slots
  hook? method := if wiring.hooks.contains method then some (run method) else none

/-- A plugin without hooks. -/
def quiet (wiring : Wiring) : Plugin := wiring.plugin fun _ memory => ⟨.done (), memory, []⟩

def descriptor (wiring : Wiring) (moduleName : String) (category : Category)
    (registration : Registration) : Descriptor where
  category := category
  className := moduleName ++ "::" ++ wiring.title
  registration := registration
  injections := wiring.injections

/-- A candidate whose constructor always succeeds. The journal says nothing of it. -/
def candidate (wiring : Wiring) (moduleName : String) (registration : Registration)
    (made : Instance) : Candidate where
  descriptor := wiring.descriptor moduleName made.category registration
  constructor := some (.done made)
  announced := false

end Wiring

end PluginHost
