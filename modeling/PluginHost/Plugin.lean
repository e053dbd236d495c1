import PluginHost.Record
import PluginHost.Slot

/-
This file says what the host can ask of a plugin. The code of a plugin is known to the host only
through these answers and through the memory that the plugin keeps between them.
-/

namespace PluginHost

/-- What a plugin throws when it does not return. -/
inductive Panic where
  | text (message : String)
  | untold
deriving DecidableEq, Repr

def Panic.message : Panic → String
  | .text message => message
  | .untold => "non-string panic payload"

/-- How a call into plugin code ends. -/
inductive Outcome (α : Type) where
  | done (value : α)
  | failed (error : PluginError)
  | panicked (panic : Panic)

/-- The guard turns a panic into a failure of the plugin on whose behalf the call was made. -/
def Outcome.guarded {α : Type} (plugin : String) : Outcome α → Except PluginError α
  | .done value => .ok value
  | .failed error => .error error
  | .panicked panic => .error (.panicked plugin panic.message)

/-- A call that cannot fail may still panic. -/
def guardedCall {α : Type} (plugin : String) : Except Panic α → Except PluginError α
  | .ok value => .ok value
  | .error panic => .error (.panicked plugin panic.message)

/-- What an instance keeps: its slots, how often each hook was called, and a value it shares. -/
structure Memory where
  slots : Slots := []
  calls : Table Nat := []
  shared : Option Provided := none

def Memory.fresh (fields : List (String × TypeInfo)) : Memory := { slots := Slots.empty fields }

def Memory.countCall (memory : Memory) (method : String) : Memory :=
  { memory with
    calls := memory.calls.insert method ((memory.calls.find? method).getD 0 + 1) }

/-- An answer of a plugin, with the memory it leaves and the events it reports. -/
structure Reply (α : Type) where
  outcome : Outcome α
  memory : Memory
  events : List Log.Event := []

/-- How much of an instance's life the journal shows. -/
inductive Visibility where
  | hidden
  | birth
  | full
deriving DecidableEq, Repr

/-- What every plugin has: slots that take injected values and hooks found by name. -/
structure Plugin where
  slots : List (String × TypeInfo) := []
  hook? : String → Option (Memory → Reply Unit) := fun _ => none
  visibility : Visibility := .hidden

/-- A built plugin and the number under which its memory is kept. -/
structure Live (ι : Type) where
  id : Nat
  face : ι

/-- A provider is asked for its type once, and for a value once for each field that names it. It is
shown the record of the consumer, without the number of the instance. -/
structure Provider extends Plugin where
  producedType : Except Panic TypeInfo
  produce : Record Plugin → Memory → Reply Provided

/-- Services and interceptors have a contract. -/
structure Exchanger extends Plugin where
  contract : Except Panic Contract := .ok Contract.byteStream

/-- A predicate over records may panic on one of them. -/
abbrev Selection := Record Unit → Except Panic Bool

/-- What an initializer can ask of the registry. -/
inductive Request where
  | services
  | interceptors
  | interceptorsFor (service : Option String) (point : InterceptPoint)
  | sharesView (service : Option String) (point : InterceptPoint)
  | addService (descriptor : Descriptor) (sections : Sections) (service : Exchanger)
  | addInterceptor (descriptor : Descriptor) (sections : Sections) (interceptor : Exchanger)
  | removeServices (selects : Selection)
  | removeInterceptors (selects : Selection)

inductive Answer where
  | records (records : List (Record Unit))
  | count (number : Nat)
  | flag (value : Bool)
  | done

/-- An initializer either ends or does one thing and goes on with what it learned. -/
inductive Program where
  | finish (outcome : Outcome Unit)
  | report (event : Log.Event) (rest : Program)
  | note (label : String) (detail : Json) (rest : Program)
  | ask (request : Request) (next : Answer → Program)

structure Initializer extends Plugin where
  init : Memory → Program

/-- What a constructor makes. -/
inductive Instance where
  | provider (face : Provider)
  | initializer (face : Initializer)
  | authMechanism (face : Plugin)
  | authorizer (face : Plugin)
  | tokenManager (face : Plugin)
  | authenticator (face : Plugin)
  | interceptor (face : Exchanger)
  | service (face : Exchanger)

namespace Instance

def category : Instance → Category
  | .provider _ => .provider
  | .initializer _ => .initializer
  | .authMechanism _ => .authMechanism
  | .authorizer _ => .authorizer
  | .tokenManager _ => .tokenManager
  | .authenticator _ => .authenticator
  | .interceptor _ => .interceptor
  | .service _ => .service

def plugin : Instance → Plugin
  | .provider face => face.toPlugin
  | .initializer face => face.toPlugin
  | .authMechanism face => face
  | .authorizer face => face
  | .tokenManager face => face
  | .authenticator face => face
  | .interceptor face => face.toPlugin
  | .service face => face.toPlugin

def debug (built : Instance) : String := "PluginInstance(" ++ built.category.debug ++ ")"

end Instance

/-- A category together with the kind of instance that belongs to it. -/
structure Kind (ι : Type) where
  category : Category
  select : Instance → Option ι
  plugin : ι → Plugin

namespace Kind

def providers : Kind Provider where
  category := .provider
  select := fun | .provider face => some face | _ => none
  plugin := Provider.toPlugin

def initializers : Kind Initializer where
  category := .initializer
  select := fun | .initializer face => some face | _ => none
  plugin := Initializer.toPlugin

def authMechanisms : Kind Plugin where
  category := .authMechanism
  select := fun | .authMechanism face => some face | _ => none
  plugin := id

def authorizers : Kind Plugin where
  category := .authorizer
  select := fun | .authorizer face => some face | _ => none
  plugin := id

def tokenManagers : Kind Plugin where
  category := .tokenManager
  select := fun | .tokenManager face => some face | _ => none
  plugin := id

def authenticators : Kind Plugin where
  category := .authenticator
  select := fun | .authenticator face => some face | _ => none
  plugin := id

def interceptors : Kind Exchanger where
  category := .interceptor
  select := fun | .interceptor face => some face | _ => none
  plugin := Exchanger.toPlugin

def services : Kind Exchanger where
  category := .service
  select := fun | .service face => some face | _ => none
  plugin := Exchanger.toPlugin

end Kind

/-- A descriptor with the constructor of its plugin. The journal shows the call of a constructor
that is announced. -/
structure Candidate where
  descriptor : Descriptor
  constructor : Option (Outcome Instance) := none
  announced : Bool := true

namespace Candidate

def name (candidate : Candidate) : String := candidate.descriptor.name

def debug (candidate : Candidate) : String :=
  candidate.descriptor.debug candidate.constructor.isSome

end Candidate

end PluginHost
