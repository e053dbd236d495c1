import PluginHost.Category
import PluginHost.Exchange

/-
This file describes a plugin as it is known before it is built: its registration, the interface
version it was made for, and the fields and methods it wants served.
-/

namespace PluginHost

/-- The interface version of the host, the major part in the upper half. -/
def hostVersion : UInt32 := 0x00010000

/-- A plugin is compatible when it was made for the same major version and for no later minor
one. -/
def isCompatible (version : UInt32) : Bool :=
  version >>> 16 == hostVersion >>> 16 && version &&& 0xFFFF ≤ hostVersion &&& 0xFFFF

/-- Hashes the bytes of the text one after the other. -/
def identityOf (key : String) : UInt64 :=
  key.toUTF8.toList.foldl (fun hash byte => (hash ^^^ byte.toUInt64) * 0x00000100000001b3)
    0xcbf29ce484222325

/-- Smaller priorities come first. -/
structure Registration where
  name : String
  description : String := ""
  priority : Int32 := 10
  enabledByDefault : Bool := true
  secure : Bool := false
  interceptPoint : InterceptPoint := .requestAfterAuth
  initPoint : InitPoint := .afterStartup
  dontIntercept : List InterceptPoint := []
  defaultUri : Option String := none
deriving Repr

structure FieldInjection where
  field : String
  declaredType : TypeInfo
  provider : String
deriving DecidableEq, Repr

/-- Hooks with one identity are one method tagged several times. -/
structure MethodInjection where
  method : String
  identity : UInt64
deriving DecidableEq, Repr

inductive InjectionPoint where
  | field (injection : FieldInjection)
  | method (injection : MethodInjection)
deriving DecidableEq, Repr

namespace InjectionPoint

def field? : InjectionPoint → Option FieldInjection
  | .field injection => some injection
  | .method _ => none

def method? : InjectionPoint → Option MethodInjection
  | .method injection => some injection
  | .field _ => none

def debug : InjectionPoint → String
  | .field injection =>
    "Field(" ++ Text.labelled "FieldInjection" [("field", Text.quoted injection.field),
      ("declared_type", injection.declaredType.debug),
      ("provider", Text.quoted injection.provider)] ++ ")"
  | .method injection =>
    "Method(" ++ Text.labelled "MethodInjection" [("method", Text.quoted injection.method),
      ("kind", "PostConstruct"), ("identity", toString injection.identity.toNat)] ++ ")"

end InjectionPoint

/-- The class names the implementation, and a descriptor is told from another by it. -/
structure Descriptor where
  category : Category
  className : String
  registration : Registration
  apiVersion : UInt32 := hostVersion
  injections : List InjectionPoint := []
deriving Repr

namespace Descriptor

def name (descriptor : Descriptor) : String := descriptor.registration.name

def priority (descriptor : Descriptor) : Int32 := descriptor.registration.priority

def fields (descriptor : Descriptor) : List FieldInjection :=
  descriptor.injections.filterMap InjectionPoint.field?

def methods (descriptor : Descriptor) : List MethodInjection :=
  descriptor.injections.filterMap InjectionPoint.method?

def debug (descriptor : Descriptor) (hasConstructor : Bool) : String :=
  Text.labelled "PluginDescriptor" [("name", Text.quoted descriptor.name),
    ("category", descriptor.category.debug),
    ("class", "ClassIdentity(" ++ Text.quoted descriptor.className ++ ")"),
    ("priority", toString descriptor.priority.toInt),
    ("injections", Text.bracketed (descriptor.injections.map InjectionPoint.debug)),
    ("has_constructor", if hasConstructor then "true" else "false")]

/-- The first list holds the descriptors already passed. -/
def repeatedAfter (earlier : List Descriptor) : List Descriptor → List String
  | [] => []
  | descriptor :: rest =>
    let known := earlier.any fun other =>
      other.category == descriptor.category && other.name == descriptor.name
    (if known then [descriptor.name] else []) ++ repeatedAfter (descriptor :: earlier) rest

/-- A name is listed once for each further occurrence within its category. -/
def repeatedNames (descriptors : List Descriptor) : List String := repeatedAfter [] descriptors

end Descriptor

end PluginHost
