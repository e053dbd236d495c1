import PluginHost.Factory

/-
This file holds the two providers of the host itself. Their names are reserved.
-/

namespace PluginHost.Builtin

def configName : String := "config"

def registryName : String := "registry"

def isReserved (name : String) : Bool := name == configName || name == registryName

/-- The smallest priority there is, ahead of every discovered provider. -/
def priority : Int32 := Int32.minValue

def config : Descriptor where
  category := .provider
  className := "tessera_engine::builtin::ConfigProvider"
  registration :=
    { name := configName
      description := "Injects the consumer's configuration section"
      priority := priority }

def registry : Descriptor where
  category := .provider
  className := "tessera_engine::builtin::RegistryProvider"
  registration :=
    { name := registryName
      description := "Injects a handle to the plugin registry"
      priority := priority }

def descriptors : List Descriptor := [config, registry]

/-- A consumer is given its own section, and an empty one if it has none. -/
def configProvider : Provider where
  producedType := .ok .configSection
  produce consumer memory :=
    ⟨.done ⟨.configSection, .settings (consumer.config.getD [])⟩, memory, []⟩

def registryProvider : Provider where
  producedType := .ok .registryHandle
  produce _ memory := ⟨.done ⟨.registryHandle, .registry true⟩, memory, []⟩

/-- Builds those that the configuration leaves enabled. -/
def instantiate (factory : Factory) : List (Built Provider) × Factory :=
  let (first, factory) := factory.adopt? config configProvider
  let (second, factory) := factory.adopt? registry registryProvider
  (first.toList ++ second.toList, factory)

end PluginHost.Builtin
