import PluginHost.Failure
import PluginHost.Json.Text

/-
This file holds the values that providers hand out and the write-once slots that receive them.
-/

namespace PluginHost

/-- A tagged text belongs to a type of its own with one text in it. A registry handle is bound to
the registry of the host or to none. -/
inductive Value where
  | text (content : String)
  | tagged (label content : String)
  | count (number : Nat)
  | settings (members : Section)
  | registry (bound : Bool)
  | stream

/-- A handle is alive as long as the registry it is bound to exists. -/
def Value.debug (registryExists : Bool) : Value → String
  | .text content => Text.quoted content
  | .tagged label content => label ++ "(" ++ Text.quoted content ++ ")"
  | .count number => toString number
  | .settings members => Json.inspectSection members
  | .registry bound =>
    Text.labelled "RegistryHandle" [("alive", if bound && registryExists then "true" else "false")]
  | .stream => "ByteStream"

/-- A value travels with the type it was made as. -/
structure Provided where
  type : TypeInfo
  value : Value

def Provided.debug (provided : Provided) : String :=
  Text.labelledOpen "Provided" [("type", Text.quoted provided.type.name)]

/-- The content of a slot has the type of the slot. -/
structure Slot where
  type : TypeInfo
  content : Option Value := none

namespace Slot

def isSet (slot : Slot) : Bool := slot.content.isSome

/-- The type is looked at before the content, and a content is never replaced. -/
def fill (slot : Slot) (field : String) (provided : Provided) : Except InjectionError Slot :=
  if provided.type = slot.type then
    match slot.content with
    | none => .ok { slot with content := some provided.value }
    | some _ => .error (.alreadyInjected field)
  else .error (.typeMismatch field slot.type provided.type)

def debug (slot : Slot) (registryExists : Bool) : String :=
  match slot.content with
  | some value => "Injected(" ++ value.debug registryExists ++ ")"
  | none => "Injected(<unset>)"

theorem fill_empty (slot : Slot) (field : String) (provided : Provided)
    (same : provided.type = slot.type) (empty : slot.content = none) :
    slot.fill field provided = .ok { slot with content := some provided.value } := by
  simp [fill, same, empty]

theorem fill_set (slot : Slot) (field : String) (provided : Provided) (value : Value)
    (same : provided.type = slot.type) (held : slot.content = some value) :
    slot.fill field provided = .error (.alreadyInjected field) := by
  simp [fill, same, held]

theorem fill_mismatch (slot : Slot) (field : String) (provided : Provided)
    (differs : provided.type ≠ slot.type) :
    slot.fill field provided = .error (.typeMismatch field slot.type provided.type) := by
  simp [fill, differs]

end Slot

/-- The slots of an instance, in the order in which they are declared. -/
abbrev Slots := List (String × Slot)

namespace Slots

def empty (fields : List (String × TypeInfo)) : Slots :=
  fields.map fun field => (field.1, { type := field.2 })

/-- A repeated name finds the first slot. -/
def content? (slots : Slots) (field : String) : Option Value :=
  (List.lookup field slots).bind Slot.content

def inject (slots : Slots) (field : String) (provided : Provided) :
    Except InjectionError Slots :=
  match slots with
  | [] => .error (.unknownField field)
  | (name, slot) :: rest =>
    if name = field then (slot.fill field provided).map fun filled => (name, filled) :: rest
    else (inject rest field provided).map fun changed => (name, slot) :: changed

end Slots

end PluginHost
