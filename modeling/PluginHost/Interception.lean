import PluginHost.Injection

/-
This file finds the interceptors of an exchange and keeps the lists it has found until the plugins
they depend on change.
-/

namespace PluginHost

abbrev ExchangerRecord := Record (Live Exchanger)

namespace Interception

/-- A contract is read anew each time it is needed. -/
def readContract (world : World) (record : ExchangerRecord) :
    Except PluginError Contract × World :=
  let face := record.plugin.face
  (guardedCall record.name face.contract,
    world.calledOn face.toPlugin (.contract record.name))

/-- An interceptor whose contract cannot be read is skipped. -/
def accepting (target : Contract) : List ExchangerRecord → World → List ExchangerRecord × World
  | [], world => ([], world)
  | record :: rest, world =>
    match readContract world record with
    | (.ok contract, world) =>
      let (others, world) := accepting target rest world
      (if contract.accepts target then record :: others else others, world)
    | (.error error, world) =>
      accepting target rest
        (world.report (failureEvent .interceptor record.name "Skipping" error))

/-- The enabled interceptors that stand at the point. -/
def standingAt (interceptors : List ExchangerRecord) (point : InterceptPoint) :
    List ExchangerRecord :=
  interceptors.filter fun record =>
    record.enabled && record.registration.interceptPoint == point

/-- Traffic without a service is a stream of bytes. A service can opt out of a point, and one
whose contract cannot be read has no interceptors. -/
def applicable (interceptors : List ExchangerRecord) (service : Option ExchangerRecord)
    (point : InterceptPoint) (world : World) : List ExchangerRecord × World :=
  match service with
  | none => accepting .byteStream (standingAt interceptors point) world
  | some record =>
    if record.registration.dontIntercept.contains point then ([], world)
    else
      match readContract world record with
      | (.ok target, world) => accepting target (standingAt interceptors point) world
      | (.error error, world) =>
        ([], world.report (failureEvent .service record.name "Error reading contract of" error))

/-- The first enabled service of the name. -/
def service? (services : List ExchangerRecord) (name : String) : Option ExchangerRecord :=
  services.find? fun record => record.enabled && record.name == name

def unknownService (name : String) : Log.Event where
  level := .debug
  target := "tessera_engine::registry"
  message := "No enabled service with this name"
  fields := [("service", .quoted name)]

/-- The list for a service given by name; a name that nobody holds has no interceptors. -/
def compute (interceptors services : List ExchangerRecord) (service : Option String)
    (point : InterceptPoint) (world : World) : List ExchangerRecord × World :=
  match service with
  | none => applicable interceptors none point world
  | some name =>
    match service? services name with
    | some record => applicable interceptors (some record) point world
    | none => ([], world.report (unknownService name))

end Interception

/-- What a list of interceptors was asked for. -/
abbrev ViewKey := Option String × InterceptPoint

/-- The lists found so far, and how often they were dropped. -/
structure ViewCache (ρ : Type) where
  generation : UInt64 := 0
  views : List (ViewKey × List ρ) := []

namespace ViewCache

variable {ρ σ : Type}

def view? (cache : ViewCache ρ) (key : ViewKey) : Option (List ρ) :=
  List.lookup key cache.views

def size (cache : ViewCache ρ) : Nat := cache.views.length

def invalidate (cache : ViewCache ρ) : ViewCache ρ := ⟨cache.generation + 1, []⟩

/-- A list is kept only if nothing was dropped since it was asked for, and the list that came
first stays. -/
def store (cache : ViewCache ρ) (seen : UInt64) (key : ViewKey) (view : List ρ) :
    List ρ × ViewCache ρ :=
  if cache.generation ≠ seen then (view, cache)
  else
    match cache.view? key with
    | some earlier => (earlier, cache)
    | none => (view, { cache with views := cache.views ++ [(key, view)] })

def notKept (point : InterceptPoint) : Log.Event where
  level := .trace
  target := "tessera_engine::interceptors"
  message := "Interceptor view invalidated during lookup, not caching"
  fields := [("point", .shown point.debug)]

/-- The answer to a lookup. -/
structure Served (ρ σ : Type) where
  view : List ρ
  computed : Bool
  kept : Bool
  cache : ViewCache ρ
  rest : σ

/-- The computation runs between two looks at the cache, and may change it. -/
def serve (cache : ViewCache ρ) (key : ViewKey) (rest : σ)
    (compute : ViewCache ρ → σ → List ρ × ViewCache ρ × σ) : Served ρ σ :=
  match cache.view? key with
  | some view => ⟨view, false, true, cache, rest⟩
  | none =>
    let (found, changed, rest) := compute cache rest
    let (view, stored) := changed.store cache.generation key found
    ⟨view, true, changed.generation == cache.generation, stored, rest⟩

end ViewCache

end PluginHost
