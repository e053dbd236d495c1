import PluginHost.Declaration.Generics
import PluginHost.Declaration.Keys
import PluginHost.Wiring

/-
This file derives the wiring of a plugin from the declaration of its implementation: from the
fields that are marked for injection, and from the keys that are attached to the declaration.
-/

namespace PluginHost

/-- A mark names the provider of a field, or leaves it to the name of the field. -/
inductive InjectMark where
  | named (provider : String)
  | unnamed
  | malformed
deriving DecidableEq, Repr

structure DeclaredField where
  name : Option String
  type : String
  mark : Option InjectMark
deriving DecidableEq, Repr

/-- Only a structure can be made a plugin. The keys stand in one text for each place where they are
attached. -/
structure Declaration where
  name : String
  isStructure : Bool := true
  generics : Generics := {}
  attached : List String := []
  fields : List DeclaredField := []
deriving DecidableEq, Repr

/-- The slot type whose argument is the type of the injected value. -/
def slotName : String := "Injected"

/-- What a field wants injected. A field without a mark wants nothing. -/
def DeclaredField.injection (field : DeclaredField) :
    Except DeclarationError (Option FieldInjection) :=
  match field.mark, field.name with
  | none, _ => .ok none
  | some _, none => .error .unnamedField
  | some .malformed, some _ => .error .malformedMark
  | some (.named provider), some name => injected name provider
  | some .unnamed, some name => injected name name
where
  injected (name provider : String) : Except DeclarationError (Option FieldInjection) :=
    match TypePath.argumentOf? slotName field.type with
    | some type => .ok (some ⟨name, ⟨type⟩, provider⟩)
    | none => .error .wrongType

namespace Declaration

def keys (declaration : Declaration) : Except DeclarationError Keys :=
  declaration.attached.foldlM Keys.read {}

/-- Keys are looked at before the kind of the declaration, and the kind before the fields. -/
def wiring (declaration : Declaration) : Except DeclarationError Wiring := do
  let keys ← declaration.keys
  if !declaration.isStructure then throw .notAStructure
  let fields ← declaration.fields.mapM DeclaredField.injection
  return { title := declaration.name, fields := fields.filterMap id, hooks := keys.hooks }

/-- An implementation that is derived: the interface, the type and the parameters it introduces. -/
structure Derived where
  interface : String
  type : String
  parameters : String
deriving DecidableEq, Repr

/-- Keys that are wrong derive nothing. -/
def derived (declaration : Declaration) : List Derived :=
  declaration.keys.toOption.toList.flatMap fun keys =>
    ["InjectionPoints", "Plugin"].map fun interface =>
      ⟨keys.home ++ "::" ++ interface, declaration.name ++ declaration.generics.applied,
        declaration.generics.introduced⟩

end Declaration

namespace Wiring

/-- The names that a value can be injected under. -/
def injectable (wiring : Wiring) : List String := wiring.fields.map FieldInjection.field

/-- The names that a hook can be called by; a repeated hook is one method. -/
def callable (wiring : Wiring) : List String := wiring.hooks.eraseDups

end Wiring

end PluginHost
