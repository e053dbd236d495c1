import PluginHost.Wiring

/-
This file holds a set of plugins around greetings. Two of its providers depend on each other, so
they and the service that needs one of them are left out of every host; an initializer counts the
services that are left.
-/

namespace PluginHost.Greeting

def greetingType (moduleName : String) : TypeInfo := ⟨moduleName ++ "::Greeting"⟩

def greeting (moduleName content : String) : Provided :=
  ⟨greetingType moduleName, .tagged "Greeting" content⟩

def field (moduleName name provider : String) : FieldInjection :=
  ⟨name, greetingType moduleName, provider⟩

/-- A provider whose greeting depends on the name of the consumer alone. -/
def provider (moduleName : String) (wiring : Wiring) (content : String → String) : Instance :=
  .provider {
    toPlugin := wiring.quiet
    producedType := .ok (greetingType moduleName)
    produce := fun consumer memory =>
      ⟨.done (greeting moduleName (content consumer.name)), memory, []⟩ }

def greetingProvider (moduleName : String) : Candidate :=
  let wiring : Wiring := { title := "GreetingProvider" }
  wiring.candidate moduleName { name := "e2e-greeting" }
    (provider moduleName wiring fun consumer => "hello " ++ consumer)

def leftProvider (moduleName : String) : Candidate :=
  let wiring : Wiring :=
    { title := "LeftProvider", fields := [field moduleName "right" "e2e-right"] }
  wiring.candidate moduleName { name := "e2e-left" }
    (provider moduleName wiring fun _ => "left")

def rightProvider (moduleName : String) : Candidate :=
  let wiring : Wiring :=
    { title := "RightProvider", fields := [field moduleName "left" "e2e-left"] }
  wiring.candidate moduleName { name := "e2e-right" }
    (provider moduleName wiring fun _ => "right")

def ready (memory : Memory) : Reply Unit :=
  match memory.slots.content? "greeting" with
  | some _ => ⟨.done (), memory, []⟩
  | none => ⟨.failed (.custom "greeting not injected"), memory, []⟩

def greeter (moduleName : String) : Candidate :=
  let wiring : Wiring :=
    { title := "Greeter"
      fields := [field moduleName "greeting" "e2e-greeting"]
      hooks := ["ready"] }
  wiring.candidate moduleName { name := "e2e-greeter", priority := 1 }
    (.service { toPlugin := wiring.plugin fun _ => ready })

def stranded (moduleName : String) : Candidate :=
  let wiring : Wiring := { title := "Stranded", fields := [field moduleName "left" "e2e-left"] }
  wiring.candidate moduleName { name := "e2e-stranded" } (.service { toPlugin := wiring.quiet })

def auditLog (moduleName : String) : Candidate :=
  let wiring : Wiring := { title := "AuditLog" }
  wiring.candidate moduleName { name := "e2e-audit", interceptPoint := .response }
    (.interceptor { toPlugin := wiring.quiet, contract := .ok .any })

def optional (moduleName : String) : Candidate :=
  let wiring : Wiring := { title := "Optional" }
  wiring.candidate moduleName { name := "e2e-optional", priority := 5 }
    (.service { toPlugin := wiring.quiet })

namespace Census

def wiring : Wiring where
  title := "Census"
  fields := [⟨"config", .configSection, "config"⟩, ⟨"registry", .registryHandle, "registry"⟩]

def fail (text : String) : Program := .finish (.failed (.custom text))

/-- Only a natural number can be expected. -/
def expected? (memory : Memory) : Option Nat :=
  match memory.slots.content? "config" with
  | some (.settings members) => (members.find? "expected_services").bind Json.natural?
  | _ => none

def count (expected : Nat) (answer : Answer) : Program :=
  match answer with
  | .records services =>
    if services.length = expected then .finish (.done ())
    else fail s!"expected {expected} services, found {services.length}"
  | _ => .finish (.done ())

/-- The registry has to be at hand before the configuration is looked at. -/
def program (memory : Memory) : Program :=
  match memory.slots.content? "registry" with
  | some (.registry true) =>
    match expected? memory with
    | some expected => .ask .services (count expected)
    | none => fail "expected_services not configured"
  | _ => fail "registry handle not injected"

def candidate (moduleName : String) : Candidate :=
  wiring.candidate moduleName { name := "e2e-census" }
    (.initializer { toPlugin := wiring.quiet, init := program })

end Census

def candidates (moduleName : String) : List Candidate :=
  [greetingProvider moduleName, greeter moduleName, leftProvider moduleName,
    rightProvider moduleName, stranded moduleName, auditLog moduleName, optional moduleName,
    Census.candidate moduleName]

end PluginHost.Greeting
