import PluginHost.Precondition
import PluginHost.World

/-
This file builds plugins from candidates, one category at a time, and keeps the tables that all
categories share. A plugin that cannot be built is reported and left out.
-/

namespace PluginHost

/-- A plugin that waits for its injection. -/
structure Pending where
  descriptor : Descriptor
  record : Record (Live Plugin)

structure Built (ι : Type) where
  descriptor : Descriptor
  record : Record (Live ι)

/-- The records are kept by class, one for each class. -/
structure Factory where
  sections : Sections
  types : TypeTable := []
  records : Table (Record (Live Plugin)) := []
  pending : List Pending := []
  world : World := {}

/-- An error report names the root cause, and gives the hint when an artifact is missing. -/
def failureEvent (category : Category) (plugin action : String) (error : PluginError) :
    Log.Event where
  level := .error
  target := "tessera_engine::factory"
  message := action ++ " " ++ category.label ++ " " ++ plugin ++ ": " ++ error.advice
  fields := [("category", .shown category.label), ("plugin", .quoted plugin),
    ("cause", .shown error.root.message)]

/-- The record of a live face as a record of the plugin behind it. -/
def Record.erase {ι : Type} (kind : Kind ι) (record : Record (Live ι)) : Record (Live Plugin) :=
  record.map fun live => ⟨live.id, kind.plugin live.face⟩

namespace Factory

variable {ι : Type}

def event (level : Log.Level) (message : String) (fields : List (String × Log.Field)) :
    Log.Event where
  level := level
  target := "tessera_engine::factory"
  message := message
  fields := fields

def report (factory : Factory) (events : List Log.Event) : Factory :=
  { factory with world := factory.world.reportAll events }

def called (factory : Factory) (call : Call) (shown : Bool) : Factory :=
  { factory with world := factory.world.called call shown }

def record? (factory : Factory) (className : String) : Option (Record (Live Plugin)) :=
  factory.records.find? className

/-- Eight hexadecimal digits. -/
def versionText (version : UInt32) : String :=
  let digits := Nat.toDigits 16 version.toNat
  "0x" ++ String.ofList (List.replicate (8 - digits.length) '0' ++ digits)

def incompatible (descriptor : Descriptor) : PluginError :=
  .configuration descriptor.name
    ("incompatible plugin API version " ++ versionText descriptor.apiVersion ++ " (host " ++
      versionText hostVersion ++ ")")

def notConstructible (descriptor : Descriptor) : PluginError :=
  .configuration descriptor.name
    (descriptor.className ++ " has no zero-argument constructor, expected " ++
      "`fn() -> Result<PluginInstance, PluginError>`")

def wrongCategory (descriptor : Descriptor) (actual expected : Category) : PluginError :=
  .configuration descriptor.name
    ("constructor produced a " ++ actual.label ++ " instance, expected a " ++ expected.label)

/-- A provider reports its type as soon as it is made, under the guard of its construction. -/
def recordType (factory : Factory) (kind : Kind ι) (descriptor : Descriptor)
    (made : Instance) : Except PluginError Unit × Factory :=
  match kind.category, made with
  | .provider, .provider provider =>
    let asked := { factory with
      world := factory.world.calledOn provider.toPlugin (.producedType descriptor.name) }
    match guardedCall descriptor.name provider.producedType with
    | .ok type => (.ok (), { asked with types := asked.types.insert descriptor.name type })
    | .error error => (.error error, asked)
  | _, _ => (.ok (), factory)

/-- Every instance that a constructor makes is given a place in the world, whether it is kept or
not. -/
def construct (factory : Factory) (kind : Kind ι) (candidate : Candidate) :
    Except PluginError (Live ι) × Factory :=
  let descriptor := candidate.descriptor
  if !isCompatible descriptor.apiVersion then (.error (incompatible descriptor), factory)
  else
    match candidate.constructor with
    | none => (.error (notConstructible descriptor), factory)
    | some constructor =>
      let factory := factory.called (.construct descriptor.name) candidate.announced
      match constructor with
      | .panicked panic => (.error (.panicked descriptor.name panic.message), factory)
      | .failed error =>
        (.error (.causedConfiguration descriptor.name "constructor failed" error), factory)
      | .done made =>
        let (live, world) := factory.world.enroll descriptor.name made.plugin made
        match { factory with world := world }.recordType kind descriptor made with
        | (.error error, factory) => (.error error, factory)
        | (.ok (), factory) =>
          match kind.select made with
          | some face => (.ok ⟨live.id, face⟩, factory)
          | none =>
            (.error (wrongCategory descriptor made.category kind.category), factory)

def register (factory : Factory) (kind : Kind ι) (descriptor : Descriptor) (live : Live ι) :
    Built ι × Factory :=
  let record := Record.make descriptor factory.sections live
  let kept := { factory with
    records := factory.records.insert descriptor.className (record.erase kind) }
  (⟨descriptor, record⟩, kept.report [event .debug "Registered plugin"
    [("category", .shown kind.category.label), ("plugin", .quoted descriptor.name),
      ("priority", .integer descriptor.priority.toInt),
      ("secure", .flag descriptor.registration.secure)]])

/-- A disabled plugin is passed over without being built. -/
def build? (factory : Factory) (kind : Kind ι) (candidate : Candidate) :
    Option (Built ι) × Factory :=
  if !factory.sections.enables candidate.descriptor then
    (none, factory.report [event .debug "Plugin disabled"
      [("category", .shown kind.category.label), ("plugin", .quoted candidate.name)]])
  else
    match factory.construct kind candidate with
    | (.ok live, factory) =>
      let (built, factory) := factory.register kind candidate.descriptor live
      (some built, factory)
    | (.error error, factory) =>
      (none, factory.report
        [failureEvent kind.category candidate.name "Error registering" error])

def buildAll (factory : Factory) (kind : Kind ι) : List Candidate → List (Built ι) × Factory
  | [] => ([], factory)
  | candidate :: rest =>
    let (built, factory) := factory.build? kind candidate
    let (others, factory) := factory.buildAll kind rest
    (built.toList ++ others, factory)

/-- What has to hold before a candidate is built, and what is reported when it is looked at. -/
structure Condition where
  holds : Descriptor → Bool
  log : Descriptor → List Log.Event

def Condition.always : Condition := ⟨fun _ => true, fun _ => []⟩

/-- The candidates of the category that fulfil the condition. -/
def admissible (kind : Kind ι) (condition : Condition) (candidates : List Candidate) :
    List Candidate :=
  candidates.filter fun candidate =>
    candidate.descriptor.category == kind.category && condition.holds candidate.descriptor

/-- The sort is stable, so equal priorities keep the order of discovery. -/
def sortByPriority (candidates : List Candidate) : List Candidate :=
  candidates.mergeSort fun first second =>
    first.descriptor.priority ≤ second.descriptor.priority

def admissionLog (kind : Kind ι) (condition : Condition) (candidates : List Candidate) :
    List Log.Event :=
  let category := ("category", Log.Field.shown kind.category.label)
  let repeated := (Descriptor.repeatedNames (candidates.map Candidate.descriptor)).map fun name =>
    event .warn "Several plugins share this name" [category, ("plugin", .quoted name)]
  repeated ++ candidates.flatMap fun candidate =>
    if candidate.descriptor.category == kind.category then condition.log candidate.descriptor
    else [event .warn "Descriptor listed under the wrong category, ignoring"
      [category, ("plugin", .quoted candidate.name),
        ("actual", .shown candidate.descriptor.category.label)]]

/-- Builds what one category lists, in ascending priority. -/
def instantiate (factory : Factory) (kind : Kind ι) (condition : Condition)
    (candidates : List Candidate) : List (Built ι) × Factory :=
  (factory.report (admissionLog kind condition candidates)).buildAll kind
    (sortByPriority (admissible kind condition candidates))

/-- Takes in a provider that the host made itself. -/
def adopt? (factory : Factory) (descriptor : Descriptor) (provider : Provider) :
    Option (Built Provider) × Factory :=
  if !factory.sections.enables descriptor then
    (none, factory.report [event .debug "Built-in provider disabled"
      [("plugin", .quoted descriptor.name)]])
  else
    let (live, world) := factory.world.enroll descriptor.name provider.toPlugin provider
    let world := world.calledOn provider.toPlugin (.producedType descriptor.name)
    let types := match provider.producedType with
      | .ok type => factory.types.insert descriptor.name type
      | .error _ => factory.types
    let (built, factory) :=
      { factory with world := world, types := types }.register Kind.providers descriptor live
    (some built, factory)

/-- Only a plugin that was built and wants something injected has to wait. -/
def enqueue (factory : Factory) (descriptor : Descriptor) : Factory :=
  if descriptor.injections.isEmpty then factory
  else
    match factory.record? descriptor.className with
    | none => factory
    | some record =>
      { factory with pending := factory.pending ++ [⟨descriptor, record⟩] }

def forget (factory : Factory) (className : String) : Factory :=
  { factory with records := factory.records.erase className }

/-- Takes out everything that waits, in the order of its arrival. -/
def drain (factory : Factory) : List Pending × Factory :=
  (factory.pending, { factory with pending := [] })

end Factory

end PluginHost
