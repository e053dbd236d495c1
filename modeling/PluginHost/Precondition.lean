import PluginHost.Graph.Validation

/-
This file decides whether a plugin that is no provider may be instantiated: every field of it must
name a valid provider of a type that the field can hold.
-/

namespace PluginHost

structure ValidProvider where
  className : String
  produced : TypeInfo
deriving DecidableEq, Repr

abbrev ValidProviders := Table ValidProvider

namespace ValidProviders

/-- Of valid providers with one name the last one counts. -/
def ofValidation (validation : Validation) (types : TypeTable) : ValidProviders :=
  Table.ofEntries <| validation.valid.filterMap fun descriptor =>
    (types.find? descriptor.name).map fun produced =>
      (descriptor.name, ⟨descriptor.className, produced⟩)

end ValidProviders

namespace Precondition

def servesField (valid : ValidProviders) (field : FieldInjection) : Bool :=
  match valid.find? field.provider with
  | none => false
  | some provider => provider.produced.isAssignableTo field.declaredType

/-- A disabled plugin is never built, so nothing is asked of it. -/
def holds (valid : ValidProviders) (sections : Sections) (descriptor : Descriptor) : Bool :=
  !sections.enables descriptor || descriptor.fields.all (servesField valid)

/-- A field naming the plugin itself is mentioned, and is judged like any other. -/
def fieldLog (valid : ValidProviders) (descriptor : Descriptor) (field : FieldInjection) :
    List Log.Event :=
  let target := "tessera_engine::checker"
  let plugin := ("plugin", Log.Field.quoted descriptor.name)
  let category := ("category", Log.Field.shown descriptor.category.label)
  let provider := ("provider", Log.Field.quoted field.provider)
  let selfReference :=
    if field.provider == descriptor.name then
      [{ level := .warn, target := target, message := "Plugin depends on itself"
         fields := [plugin, ("field", .quoted field.field)] : Log.Event }]
    else []
  let verdict :=
    match valid.find? field.provider with
    | none =>
      [{ level := .error, target := target
         message := "Plugin disabled: no provider found for '" ++ field.provider ++ "'"
         fields := [plugin, category, provider] : Log.Event }]
    | some found =>
      if found.produced.isAssignableTo field.declaredType then []
      else
        [{ level := .error, target := target
           message := "Plugin disabled: provider type not assignable to field"
           fields := [plugin, category, provider, ("field", .quoted field.field),
             ("expected", .shown field.declaredType.name),
             ("found", .shown found.produced.name)] : Log.Event }]
  selfReference ++ verdict

def log (valid : ValidProviders) (sections : Sections) (descriptor : Descriptor) :
    List Log.Event :=
  if sections.enables descriptor then descriptor.fields.flatMap (fieldLog valid descriptor)
  else []

end Precondition

end PluginHost
