import PluginHost.Wiring

/-
This file holds the plugins of a small gateway. A counter is shared by a service that answers
liveness probes and by an interceptor of requests, and an initializer mounts a second service.
-/

namespace PluginHost.Gateway

/-- The types and the log events of the plugins are named after their module. -/
def typeIn (moduleName title : String) : TypeInfo := ⟨moduleName ++ "::" ++ title⟩

def event (moduleName message : String) (fields : List (String × Log.Field)) : Log.Event where
  level := .info
  target := moduleName
  message := message
  fields := fields

def counterName : String := "request-counter"

def counterType (moduleName : String) : TypeInfo := typeIn moduleName "RequestCounter"

def counterField (moduleName : String) : FieldInjection :=
  ⟨"counter", counterType moduleName, counterName⟩

namespace RequestCounter

def wiring : Wiring := { title := "RequestCounterProvider" }

/-- Every consumer is given the same counter. -/
def provider (moduleName : String) : Provider where
  toPlugin := wiring.quiet
  producedType := .ok (counterType moduleName)
  produce consumer memory :=
    ⟨.done ⟨counterType moduleName, .tagged "RequestCounter" ""⟩, memory,
      [event moduleName "Sharing request counter" [("consumer", .quoted consumer.name)]]⟩

def candidate (moduleName : String) : Candidate :=
  wiring.candidate moduleName
    { name := counterName, description := "Counts requests across services" }
    (.provider (provider moduleName))

end RequestCounter

namespace Ping

def name : String := "ping"

def wiring (moduleName : String) : Wiring where
  title := "Ping"
  fields := [counterField moduleName, ⟨"config", .configSection, "config"⟩]
  hooks := ["ready"]

/-- The reply is configured, or it has its usual text. -/
def reply (memory : Memory) : String :=
  match memory.slots.content? "config" with
  | some (.settings members) => ((members.find? "reply").bind Json.text?).getD "pong"
  | _ => "pong"

/-- The service itself makes the only hits on the counter, one with each call of its hook. -/
def hits (memory : Memory) : Nat := (memory.calls.find? "ready").getD 0

def ready (moduleName : String) (memory : Memory) : Reply Unit :=
  match memory.slots.content? "counter" with
  | none => ⟨.failed (.custom "request counter not injected"), memory, []⟩
  | some _ =>
    ⟨.done (), memory, [event moduleName "Ping service ready"
      [("hits", .integer (hits memory)), ("reply", .quoted (reply memory))]]⟩

def service (moduleName : String) : Exchanger where
  toPlugin := (wiring moduleName).plugin fun _ => ready moduleName
  contract :=
    .ok ⟨.only (typeIn moduleName "PingRequest"), .only (typeIn moduleName "PingResponse")⟩

def candidate (moduleName : String) : Candidate :=
  (wiring moduleName).candidate moduleName
    { name := name, description := "Replies to liveness probes", defaultUri := some "/ping" }
    (.service (service moduleName))

end Ping

namespace RequestLog

def wiring (moduleName : String) : Wiring where
  title := "RequestLog"
  fields := [counterField moduleName]

/-- Stands before any exchange. -/
def candidate (moduleName : String) : Candidate :=
  (wiring moduleName).candidate moduleName { name := "request-log", priority := 1 }
    (.interceptor { toPlugin := (wiring moduleName).quiet, contract := .ok .any })

end RequestLog

namespace ProxyAudit

def wiring : Wiring := { title := "ProxyAudit" }

/-- Stands before exchanges of plain bytes only. -/
def candidate (moduleName : String) : Candidate :=
  wiring.candidate moduleName { name := "proxy-audit" }
    (.interceptor { toPlugin := wiring.quiet, contract := .ok .byteStream })

end ProxyAudit

namespace Health

def wiring : Wiring := { title := "Health" }

/-- The service is mounted at startup and is not discovered. -/
def descriptor (moduleName : String) : Descriptor :=
  wiring.descriptor moduleName .service { name := "health", defaultUri := some "/health" }

def service : Exchanger := { toPlugin := wiring.quiet }

end Health

namespace MountHealth

def wiring : Wiring := { title := "MountHealth" }

def program (moduleName : String) : Program :=
  .ask (.addService (Health.descriptor moduleName) [] Health.service) fun _ => .finish (.done ())

def candidate (moduleName : String) : Candidate :=
  wiring.candidate moduleName { name := "mount-health", initPoint := .beforeStartup }
    (.initializer { toPlugin := wiring.quiet, init := fun _ => program moduleName })

end MountHealth

namespace Banner

def wiring : Wiring := { title := "Banner" }

/-- A service without an address of its own is served at the top. -/
def servingEvent (moduleName : String) (service : Record Unit) : Log.Event :=
  event moduleName "Serving" [("service", .quoted service.name),
    ("uri", .quoted (service.registration.defaultUri.getD "/"))]

/-- Lists the services that are enabled. -/
def program (moduleName : String) : Program :=
  .ask .services fun answer =>
    match answer with
    | .records services =>
      (services.map (servingEvent moduleName)).foldr .report (.finish (.done ()))
    | _ => .finish (.done ())

def candidate (moduleName : String) : Candidate :=
  wiring.candidate moduleName { name := "banner" }
    (.initializer { toPlugin := wiring.quiet, init := fun _ => program moduleName })

end Banner

def candidates (moduleName : String) : List Candidate :=
  [RequestCounter.candidate moduleName, Ping.candidate moduleName,
    RequestLog.candidate moduleName, ProxyAudit.candidate moduleName,
    MountHealth.candidate moduleName, Banner.candidate moduleName]

end PluginHost.Gateway
