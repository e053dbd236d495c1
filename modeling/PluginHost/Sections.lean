import PluginHost.Descriptor
import PluginHost.Json.Text
import PluginHost.Log.Event

/-
This file holds the configuration sections of the plugins and decides which plugins are enabled.
-/

namespace PluginHost

/-- The name of the entry that switches a plugin on or off. -/
def enabledKey : String := "enabled"

abbrev Sections := Table Section

namespace Sections

def notASection (plugin : String) (value : Json) : Log.Event where
  level := .warn
  target := "tessera_core::record"
  message := "Plugin args are not a map, using empty configuration"
  fields := [("plugin", .shown plugin), ("value", .shown value.render)]

/-- A value that is no object counts as an empty section. -/
def sectionOf (value : Json) : Section := value.members?.getD []

/-- Later sections replace earlier ones of the same name. -/
def ofArguments (arguments : List (String × Json)) : Sections :=
  Table.ofEntries (arguments.map fun entry => (entry.1, sectionOf entry.2))

/-- One warning stands for each value that is no object, replaced or not. -/
def warnings (arguments : List (String × Json)) : List Log.Event :=
  arguments.filterMap fun entry =>
    match entry.2.members? with
    | some _ => none
    | none => some (notASection entry.1 entry.2)

/-- Only a flag under the key counts; anything else leaves the default. -/
def isEnabled (sections : Sections) (name : String) (byDefault : Bool) : Bool :=
  (((sections.find? name).bind fun entries => entries.find? enabledKey).bind Json.flag?).getD
    byDefault

def enables (sections : Sections) (descriptor : Descriptor) : Bool :=
  sections.isEnabled descriptor.name descriptor.registration.enabledByDefault

end Sections

end PluginHost
