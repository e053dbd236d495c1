import PluginHost.Text.Quoted

/-
This file holds the types that plugins exchange, the contracts over them, and the points of an
exchange at which an interceptor may stand.
-/

namespace PluginHost

/-- Two types are the same when their names are. -/
structure TypeInfo where
  name : String
deriving DecidableEq, Repr

namespace TypeInfo

/-- A value can be held only by a field of its own type. -/
def isAssignableTo (found declared : TypeInfo) : Bool := found == declared

def debug (type : TypeInfo) : String := "TypeInfo(" ++ Text.quoted type.name ++ ")"

/-- The type of configuration sections. -/
def configSection : TypeInfo :=
  ⟨"serde_json::map::Map<alloc::string::String, serde_json::value::Value>"⟩

def registryHandle : TypeInfo := ⟨"tessera_core::registry::RegistryHandle"⟩

def byteStream : TypeInfo := ⟨"tessera_core::types::ByteStream"⟩

end TypeInfo

inductive ExchangeType where
  | any
  | only (type : TypeInfo)
deriving DecidableEq, Repr

namespace ExchangeType

/-- A side that takes one type does not take a side that may be of any. -/
def accepts : ExchangeType → ExchangeType → Bool
  | .any, _ => true
  | .only declared, .only offered => declared == offered
  | .only _, .any => false

def debug : ExchangeType → String
  | .any => "Any"
  | .only type => "Of(" ++ type.debug ++ ")"

def label : ExchangeType → String
  | .any => "Any"
  | .only type => type.name

end ExchangeType

structure Contract where
  request : ExchangeType
  response : ExchangeType
deriving DecidableEq, Repr

namespace Contract

def any : Contract := ⟨.any, .any⟩

def byteStream : Contract := ⟨.only .byteStream, .only .byteStream⟩

/-- Both sides have to be accepted. -/
def accepts (contract target : Contract) : Bool :=
  contract.request.accepts target.request && contract.response.accepts target.response

def debug (contract : Contract) : String :=
  Text.labelled "Contract"
    [("request", contract.request.debug), ("response", contract.response.debug)]

end Contract

/-- The points are in the order in which an exchange passes them. -/
inductive InterceptPoint where
  | requestBeforeExchangeInit
  | requestBeforeAuth
  | requestAfterAuth
  | requestAfterFailedAuth
  | response
  | responseAsync
deriving DecidableEq, Repr

namespace InterceptPoint

def all : List InterceptPoint :=
  [.requestBeforeExchangeInit, .requestBeforeAuth, .requestAfterAuth, .requestAfterFailedAuth,
    .response, .responseAsync]

def name : InterceptPoint → String
  | .requestBeforeExchangeInit => "request_before_exchange_init"
  | .requestBeforeAuth => "request_before_auth"
  | .requestAfterAuth => "request_after_auth"
  | .requestAfterFailedAuth => "request_after_failed_auth"
  | .response => "response"
  | .responseAsync => "response_async"

def debug : InterceptPoint → String
  | .requestBeforeExchangeInit => "RequestBeforeExchangeInit"
  | .requestBeforeAuth => "RequestBeforeAuth"
  | .requestAfterAuth => "RequestAfterAuth"
  | .requestAfterFailedAuth => "RequestAfterFailedAuth"
  | .response => "Response"
  | .responseAsync => "ResponseAsync"

def rank : InterceptPoint → Nat
  | .requestBeforeExchangeInit => 0
  | .requestBeforeAuth => 1
  | .requestAfterAuth => 2
  | .requestAfterFailedAuth => 3
  | .response => 4
  | .responseAsync => 5

def sort (points : List InterceptPoint) : List InterceptPoint :=
  points.mergeSort fun first second => first.rank ≤ second.rank

end InterceptPoint

/-- The two points of startup at which initializers run. -/
inductive InitPoint where
  | beforeStartup
  | afterStartup
deriving DecidableEq, Repr

namespace InitPoint

def all : List InitPoint := [.beforeStartup, .afterStartup]

def name : InitPoint → String
  | .beforeStartup => "before_startup"
  | .afterStartup => "after_startup"

def debug : InitPoint → String
  | .beforeStartup => "BeforeStartup"
  | .afterStartup => "AfterStartup"

end InitPoint

end PluginHost
