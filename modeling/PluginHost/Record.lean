import PluginHost.Sections

/-
This file holds the record that the host keeps of a built plugin.
-/

namespace PluginHost

/-- The record is made once, from the registration and the sections of that moment. -/
structure Record (ι : Type) where
  registration : Registration
  implementation : String
  config : Option Section
  enabled : Bool
  plugin : ι

namespace Record

variable {ι κ : Type}

def make (descriptor : Descriptor) (sections : Sections) (plugin : ι) : Record ι where
  registration := descriptor.registration
  implementation := descriptor.className
  config := sections.find? descriptor.name
  enabled := sections.enables descriptor
  plugin := plugin

def name (record : Record ι) : String := record.registration.name

def priority (record : Record ι) : Int32 := record.registration.priority

def map (f : ι → κ) (record : Record ι) : Record κ where
  registration := record.registration
  implementation := record.implementation
  config := record.config
  enabled := record.enabled
  plugin := f record.plugin

/-- The record without the plugin. -/
def card (record : Record ι) : Record Unit := record.map fun _ => ()

def value? (record : Record ι) (key : String) : Option Json :=
  record.config.bind fun entries => entries.find? key

def debug (record : Record ι) : String :=
  Text.labelledOpen "PluginRecord" [("name", Text.quoted record.name),
    ("implementation", Text.quoted record.implementation),
    ("enabled", if record.enabled then "true" else "false"),
    ("secure", if record.registration.secure then "true" else "false"),
    ("config", Text.optional (record.config.map Json.inspectSection))]

/-- Keeps a list ascending by priority; the new record comes after those of equal priority. -/
def insertByPriority (record : Record ι) (records : List (Record ι)) : List (Record ι) :=
  records.takeWhile (fun other => other.priority ≤ record.priority) ++
    record :: records.dropWhile (fun other => other.priority ≤ record.priority)

end Record

end PluginHost
