import PluginHost.Proofs.Receipt
import PluginHost.Proofs.Reported
import PluginHost.Proofs.Startup.Passing

/-
This file follows what the code of a plugin returns into the failures that the host wraps around
it. Each of them has the same root, so a missing artifact is never hidden, and the hint stands in
place of a failure's own text exactly where an artifact is missing.
-/

namespace PluginHost

namespace PluginError

theorem isArtifact_iff {error : PluginError} :
    error.isArtifact = true ↔ ∃ artifact, error = .missingArtifact artifact := by
  cases error <;> simp [isArtifact]

/-- A missing artifact rests on nothing, so it can only be at the end of the chain. -/
theorem isMissingArtifact_eq (error : PluginError) :
    error.isMissingArtifact = error.root.isArtifact := by
  induction error with
  | causedConfiguration plugin message cause ih => exact ih
  | other cause ih => exact ih
  | causedForeign text cause ih => exact ih
  | missingArtifact artifact => rfl
  | _ => rfl

theorem isMissingArtifact_iff {error : PluginError} :
    error.isMissingArtifact = true ↔ ∃ artifact, error.root = .missingArtifact artifact := by
  rw [isMissingArtifact_eq, isArtifact_iff]

/-- The failure tells of the cause: it is rooted in the same, and the hint takes the place of its
text exactly if that is a missing artifact. -/
structure Carries (failure cause : PluginError) : Prop where
  root : failure.root = cause.root
  verdict : failure.isMissingArtifact = cause.isMissingArtifact
  hinted : ∀ artifact, cause.root = .missingArtifact artifact →
    failure.advice = missingArtifactHint
  plain : (∀ artifact, cause.root ≠ .missingArtifact artifact) → failure.advice = failure.message

theorem Carries.of_root {failure cause : PluginError} (same : failure.root = cause.root) :
    failure.Carries cause where
  root := same
  verdict := by rw [isMissingArtifact_eq, isMissingArtifact_eq, same]
  hinted artifact rooted := if_pos (isMissingArtifact_iff.mpr ⟨artifact, same.trans rooted⟩)
  plain other := by
    refine if_neg fun missing => ?_
    obtain ⟨artifact, rooted⟩ := isMissingArtifact_iff.mp missing
    exact other artifact (same.symm.trans rooted)

theorem carries_self (cause : PluginError) : cause.Carries cause := .of_root rfl

theorem causedConfiguration_carries (plugin message : String) (cause : PluginError) :
    (causedConfiguration plugin message cause).Carries cause := .of_root rfl

/-- The text gives the hint behind its heading if the cause is rooted in a missing artifact, and
the failure's own text otherwise. -/
structure Worded (failure cause : PluginError) (heading text : String) : Prop where
  hinted : ∀ artifact, cause.root = .missingArtifact artifact →
    text = heading ++ missingArtifactHint
  plain : (∀ artifact, cause.root ≠ .missingArtifact artifact) → text = heading ++ failure.message

/-- The event is an error that says what was tried with the plugin, and names the root of the
cause. -/
structure Logged (failure cause : PluginError) (category : Category) (plugin action : String)
    (event : Log.Event) : Prop where
  level : event.level = .error
  target : event.target = "tessera_engine::factory"
  message : failure.Worded cause (action ++ " " ++ category.label ++ " " ++ plugin ++ ": ")
    event.message
  fields : event.fields = [("category", .shown category.label), ("plugin", .quoted plugin),
    ("cause", .shown cause.root.message)]

namespace Carries

variable {failure cause : PluginError}

theorem worded (carries : failure.Carries cause) (heading : String) :
    failure.Worded cause heading (heading ++ failure.advice) where
  hinted artifact rooted := by rw [carries.hinted artifact rooted]
  plain other := by rw [carries.plain other]

theorem logged (carries : failure.Carries cause) (category : Category) (plugin action : String) :
    failure.Logged cause category plugin action (failureEvent category plugin action failure) where
  level := rfl
  target := rfl
  message := carries.worded _
  fields := by rw [failureEvent, carries.root]

theorem worded_injection (carries : failure.Carries cause) (plugin : String)
    (category : Category) :
    failure.Worded cause (category.label ++ " " ++ plugin ++ ": ")
      (InjectionFailure.message ⟨plugin, category, failure⟩) :=
  carries.worded _

theorem worded_initializer (carries : failure.Carries cause) (initializer : String)
    (point : InitPoint) :
    failure.Worded cause ("initializer " ++ initializer ++ " (" ++ point.name ++ "): ")
      (InitializerFailure.message ⟨initializer, point, failure⟩) :=
  carries.worded _

end Carries

end PluginError

open PluginError

namespace Factory

variable {ι : Type} {candidate : Candidate} {error : PluginError}

theorem buildAll_append (factory : Factory) (kind : Kind ι) (earlier later : List Candidate) :
    (factory.buildAll kind (earlier ++ later)).2 =
      ((factory.buildAll kind earlier).2.buildAll kind later).2 := by
  induction earlier generalizing factory with
  | nil => rfl
  | cons candidate rest ih => exact ih _

/-- What a constructor returned is reported at once, wrapped. -/
theorem build?_failed (factory : Factory) (kind : Kind ι)
    (enabled : factory.sections.enables candidate.descriptor = true)
    (compatible : isCompatible candidate.descriptor.apiVersion = true)
    (returned : candidate.constructor = some (.failed error)) :
    (factory.build? kind candidate).2.world.log = factory.world.log ++
      [.event (failureEvent kind.category candidate.name "Error registering"
        (.causedConfiguration candidate.name "constructor failed" error))] := by
  have constructed : factory.construct kind candidate =
      (.error (.causedConfiguration candidate.name "constructor failed" error),
        factory.called (.construct candidate.name) candidate.announced) := by
    rw [construct, compatible, returned]
    rfl
  rw [build?, enabled, constructed]
  rfl

end Factory

/-- A candidate that is built in its turn is reported with what its constructor returned. -/
theorem Factory.instantiate_carries {ι : Type} {factory : Factory} {kind : Kind ι}
    {condition : Condition} {candidates earlier later : List Candidate} {candidate : Candidate}
    {error : PluginError}
    (turns : sortByPriority (admissible kind condition candidates) = earlier ++ candidate :: later)
    (enabled : factory.sections.enables candidate.descriptor = true)
    (compatible : isCompatible candidate.descriptor.apiVersion = true)
    (returned : candidate.constructor = some (.failed error)) :
    ∃ (failure : PluginError) (event : Log.Event), failure.Carries error ∧
      failure.Logged error kind.category candidate.name "Error registering" event ∧
      ((factory.report (admissionLog kind condition candidates)).buildAll kind earlier).2.world.log
          ++ [.event event] <+: (factory.instantiate kind condition candidates).2.world.log := by
  let opened := factory.report (admissionLog kind condition candidates)
  let met := (opened.buildAll kind earlier).2
  have sections : met.sections = factory.sections := (opened.buildAll_adds kind earlier).2.sections
  have told := build?_failed met kind (sections ▸ enabled) compatible returned
  have carries := causedConfiguration_carries candidate.name "constructor failed" error
  refine ⟨_, _, carries, carries.logged _ _ _, ?_⟩
  rw [instantiate, turns, buildAll_append, ← told]
  exact (met.build? kind candidate).2.buildAll_tells kind later

namespace Injection

variable {providers : List ProviderRecord} {descriptor : Descriptor}
  {consumer : Record (Live Plugin)} {world : World} {field : FieldInjection}
  {hook : MethodInjection} {pending : Pending} {error : PluginError}

/-- The code that was running when the injection of a plugin came to its end, and what it
returned. Each call is made in the world that the calls before it have left. -/
inductive StoppedBy (providers : List ProviderRecord) (pending : Pending) (world : World) :
    PluginError → Prop where
  | producer {before after : List FieldInjection} {field : FieldInjection}
      {provider : ProviderRecord} {cause : PluginError}
      (declared : pending.descriptor.fields = before ++ field :: after)
      (reached : (fillFields providers pending.descriptor pending.record before world).1 = .ok ())
      (served : provider? providers field.provider = some provider)
      (returned : (produce (fillFields providers pending.descriptor pending.record before world).2
        provider pending.descriptor.name pending.record).1 = .error cause) :
      StoppedBy providers pending world cause
  | setter {before after : List FieldInjection} {field : FieldInjection}
      {provider : ProviderRecord} {value : Provided} {asked : World} {cause : InjectionError}
      (declared : pending.descriptor.fields = before ++ field :: after)
      (reached : (fillFields providers pending.descriptor pending.record before world).1 = .ok ())
      (served : provider? providers field.provider = some provider)
      (produced : produce (fillFields providers pending.descriptor pending.record before world).2
        provider pending.descriptor.name pending.record = (.ok value, asked))
      (returned : (deliver asked pending.record field.field value).1 = .error cause) :
      StoppedBy providers pending world (.injection cause)
  | hook {before after : List MethodInjection} {hook : MethodInjection} {filled : World}
      {cause : PluginError}
      (filling : fillFields providers pending.descriptor pending.record pending.descriptor.fields
        world = (.ok (), filled))
      (declared : pending.descriptor.methods = before ++ hook :: after)
      (reached : (runHooks pending.descriptor pending.record before filled).1 = .ok ())
      (single : timesTagged pending.descriptor hook = 1)
      (returned : (invoke (runHooks pending.descriptor pending.record before filled).2
        pending.record hook.method).1 = some (.failed cause)) :
      StoppedBy providers pending world cause

theorem fillField_of_produce {provider : ProviderRecord}
    (served : provider? providers field.provider = some provider)
    (returned : (produce world provider descriptor.name consumer).1 = .error error) :
    (fillField providers descriptor consumer field world).1 =
      .error (.causedConfiguration descriptor.name
        ("provider '" ++ field.provider ++ "' failed to produce a value") error) := by
  rw [fillField, served]
  dsimp only
  generalize produce world provider descriptor.name consumer = answer at returned ⊢
  obtain ⟨produced, next⟩ := answer
  cases returned
  rfl

theorem fillField_of_deliver {provider : ProviderRecord} {value : Provided} {asked : World}
    {cause : InjectionError} (served : provider? providers field.provider = some provider)
    (produced : produce world provider descriptor.name consumer = (.ok value, asked))
    (returned : (deliver asked consumer field.field value).1 = .error cause) :
    (fillField providers descriptor consumer field world).1 =
      .error (.causedConfiguration descriptor.name ("cannot inject field '" ++ field.field ++ "'")
        (.injection cause)) := by
  rw [fillField, served]
  dsimp only
  rw [produced]
  dsimp only
  generalize deliver asked consumer field.field value = reply at returned ⊢
  obtain ⟨outcome, next⟩ := reply
  cases returned
  rfl

theorem runHook_of_invoke (single : timesTagged descriptor hook = 1)
    (returned : (invoke world consumer hook.method).1 = some (.failed error)) :
    (runHook descriptor consumer hook world).1 =
      .error (.causedConfiguration descriptor.name
        ("error executing post-construct method `" ++ hook.method ++ "`") error) := by
  rw [runHook, if_neg (not_not_intro single)]
  generalize invoke world consumer hook.method = answer at returned ⊢
  obtain ⟨outcome, next⟩ := answer
  cases returned
  rfl

/-- The fields behind one that fails are not reached. -/
theorem fillFields_of_fillField {before : List FieldInjection} (after : List FieldInjection)
    (reached : (fillFields providers descriptor consumer before world).1 = .ok ())
    (failed : (fillField providers descriptor consumer field
      (fillFields providers descriptor consumer before world).2).1 = .error error) :
    (fillFields providers descriptor consumer (before ++ field :: after) world).1 =
      .error error := by
  rw [fillFields_append reached, fillFields]
  generalize fillField providers descriptor consumer field
    (fillFields providers descriptor consumer before world).2 = answer at failed ⊢
  obtain ⟨outcome, next⟩ := answer
  cases failed
  rfl

theorem runHooks_of_runHook {before : List MethodInjection} (after : List MethodInjection)
    (reached : (runHooks descriptor consumer before world).1 = .ok ())
    (failed : (runHook descriptor consumer hook
      (runHooks descriptor consumer before world).2).1 = .error error) :
    (runHooks descriptor consumer (before ++ hook :: after) world).1 = .error error := by
  induction before generalizing world with
  | nil =>
      rw [runHooks] at failed
      rw [List.nil_append, runHooks]
      generalize runHook descriptor consumer hook world = answer at failed ⊢
      obtain ⟨outcome, next⟩ := answer
      cases failed
      rfl
  | cons first rest ih =>
      rw [runHooks] at reached failed
      rw [List.cons_append, runHooks]
      generalize runHook descriptor consumer first world = answer at reached failed ⊢
      obtain ⟨outcome, next⟩ := answer
      cases outcome with
      | error cause => cases reached
      | ok done => exact ih reached failed

theorem serve_of_fillFields
    (failed : (fillFields providers pending.descriptor pending.record pending.descriptor.fields
      world).1 = .error error) :
    (serve providers pending world).1 = .error error := by
  rw [serve]
  generalize fillFields providers pending.descriptor pending.record pending.descriptor.fields
    world = answer at failed ⊢
  obtain ⟨outcome, next⟩ := answer
  cases failed
  rfl

/-- The injection of a plugin ends with a failure that carries what stopped it. -/
theorem StoppedBy.serve (stopped : StoppedBy providers pending world error) :
    ∃ failure : PluginError, failure.Carries error ∧
      (Injection.serve providers pending world).1 = .error failure := by
  cases stopped with
  | @producer before after field provider cause declared reached served returned =>
      have failed := fillFields_of_fillField after reached
        (fillField_of_produce served returned)
      rw [← declared] at failed
      exact ⟨_, causedConfiguration_carries _ _ error, serve_of_fillFields failed⟩
  | @setter before after field provider value asked cause declared reached served produced
      returned =>
      have failed := fillFields_of_fillField after reached
        (fillField_of_deliver served produced returned)
      rw [← declared] at failed
      exact ⟨_, causedConfiguration_carries _ _ (.injection cause), serve_of_fillFields failed⟩
  | @hook before after hook filled cause filling declared reached single returned =>
      have failed := runHooks_of_runHook after reached
        (runHook_of_invoke single returned)
      have ended : Injection.serve providers pending world =
          runHooks pending.descriptor pending.record pending.descriptor.methods filled := by
        rw [Injection.serve, filling]
      rw [← declared, ← ended] at failed
      exact ⟨_, causedConfiguration_carries _ _ error, failed⟩

/-- A plugin that fails in its turn is recorded and reported before the next one is served. -/
theorem serveAll_of_serve {earlier later : List Pending}
    (failed : (serve providers pending (serveAll providers earlier world).2).1 = .error error) :
    (serveAll providers earlier world).1.failures ++
        [⟨pending.descriptor.name, pending.descriptor.category, error⟩] <+:
        (serveAll providers (earlier ++ pending :: later) world).1.failures ∧
      (serve providers pending (serveAll providers earlier world).2).2.log ++
        [.event (failureEvent pending.descriptor.category pending.descriptor.name
          "Error injecting dependencies into" error)] <+:
        (serveAll providers (earlier ++ pending :: later) world).2.log := by
  induction earlier generalizing world with
  | nil =>
      rw [serveAll] at failed
      rw [List.nil_append, serveAll, serveAll]
      generalize serve providers pending world = answer at failed ⊢
      obtain ⟨outcome, next⟩ := answer
      cases failed
      exact ⟨List.prefix_append [_] _, serveAll_tells later (next.report _)⟩
  | cons first rest ih =>
      rw [serveAll] at failed
      rw [List.cons_append, serveAll, serveAll]
      generalize serve providers first world = answer at failed ⊢
      obtain ⟨outcome, next⟩ := answer
      cases outcome with
      | ok done => exact ih failed
      | error cause =>
          obtain ⟨recorded, reported⟩ := ih failed
          exact ⟨(List.cons_prefix_cons.mpr ⟨rfl, recorded⟩), reported⟩

theorem serveAll_carries {earlier later : List Pending}
    (stopped : StoppedBy providers pending (serveAll providers earlier world).2 error) :
    ∃ (failure : PluginError) (event : Log.Event), failure.Carries error ∧
      failure.Logged error pending.descriptor.category pending.descriptor.name
        "Error injecting dependencies into" event ∧
      failure.Worded error
        (pending.descriptor.category.label ++ " " ++ pending.descriptor.name ++ ": ")
        (InjectionFailure.message
          ⟨pending.descriptor.name, pending.descriptor.category, failure⟩) ∧
      (serveAll providers earlier world).1.failures ++
          [⟨pending.descriptor.name, pending.descriptor.category, failure⟩] <+:
        (serveAll providers (earlier ++ pending :: later) world).1.failures ∧
      (Injection.serve providers pending (serveAll providers earlier world).2).2.log ++
          [.event event] <+:
        (serveAll providers (earlier ++ pending :: later) world).2.log := by
  obtain ⟨failure, carries, failed⟩ := stopped.serve
  exact ⟨failure, _, carries, carries.logged _ _ _, carries.worded_injection _ _,
    serveAll_of_serve failed⟩

end Injection

namespace Host

variable {registry : Registry} {point : InitPoint} {initializer : Record (Live Initializer)}
  {initializers : List (Record (Live Initializer))} {earlier later : List Run} {run : Run}
  {error : PluginError}

/-- The first call assembles, and the initializers run in the assembled registry. -/
theorem runInitializers_eq (registry : Registry) (point : InitPoint) :
    runInitializers registry point =
      runAll point (registry.assembled.due point) registry.assembled := by
  unfold runInitializers Registry.due Registry.assembled Registry.assemble
  cases held : registry.assembly with
  | none => rfl
  | some assembly => simp [held]

/-- The verdict on a run is reported before the next one begins. -/
theorem runAll_cons (due : initializer.registration.initPoint = point) :
    (runAll point (initializer :: initializers) registry).2 =
      (runAll point initializers ((Run.mk initializer registry).left.report
        (Run.mk initializer registry).verdict)).2 := by
  let run : Run := ⟨initializer, registry⟩
  have ends : registry.runInitializer initializer = (run.outcome, run.left) := rfl
  change _ = (runAll point initializers (run.left.report run.verdict)).2
  rw [runAll, ends, Run.verdict, Run.point, due]
  cases run.outcome with
  | ok done => rfl
  | error error => rfl

theorem runAll_reports (due : ∀ initializer ∈ initializers,
      initializer.registration.initPoint = point)
    (present : registry.assembly.isSome = true)
    (runs : runsFrom initializers registry = earlier ++ run :: later) :
    run.left.world.log ++ [.event run.verdict] <+:
      (runAll point initializers registry).2.world.log := by
  induction initializers generalizing registry earlier with
  | nil => cases earlier <;> cases runs
  | cons initializer rest ih =>
      obtain ⟨here, others⟩ := List.forall_mem_cons.mp due
      let first : Run := ⟨initializer, registry⟩
      have left : first.left.assembly = registry.assembly := (Run.left_spec present).1
      rw [runAll_cons here]
      cases earlier with
      | nil =>
          obtain ⟨rfl, -⟩ := List.cons.inj runs
          exact (runAll_spec others (first.left.report first.verdict)).2.tells (left ▸ present)
      | cons _ between =>
          obtain ⟨-, runs⟩ := List.cons.inj runs
          exact ih others (left ▸ present) runs

/-- What an initializer returned is recorded and reported as it is. -/
theorem runInitializers_carries
    (runs : runsFrom (registry.assembled.due point) registry.assembled = earlier ++ run :: later)
    (returned : run.outcome = .error error) :
    ∃ (failure : PluginError) (event : Log.Event), failure.Carries error ∧
      failure.Logged error .initializer run.name "Error executing" event ∧
      failure.Worded error ("initializer " ++ run.name ++ " (" ++ run.point.name ++ "): ")
        (InitializerFailure.message ⟨run.name, run.point, failure⟩) ∧
      earlier.filterMap Run.failure? ++ [⟨run.name, run.point, failure⟩] <+:
        (runInitializers registry point).1 ∧
      run.left.world.log ++ [.event event] <+: (runInitializers registry point).2.world.log := by
  have due : ∀ initializer ∈ registry.assembled.due point,
      initializer.registration.initPoint = point := fun _ member => Registry.point_of_due member
  have reported := runAll_reports due registry.assembled_present runs
  have failed : run.failure? = some ⟨run.name, run.point, error⟩ := by
    rw [Run.failure?, returned]
  rw [Run.verdict, returned] at reported
  have carries := carries_self error
  refine ⟨error, _, carries, carries.logged _ _ _, carries.worded_initializer _ _, ?_, ?_⟩
  · rw [runInitializers_eq, (runAll_spec due _).1, runs, List.filterMap_append,
      List.filterMap_cons_some failed]
    exact (List.prefix_append_right_inj _).mpr (List.prefix_append [_] _)
  · rw [runInitializers_eq]
    exact reported

end Host

/-- Wrapping hides no cause. A failure counts as a missing artifact exactly if it is rooted in one,
and what the host reports and records of a plugin carries what its constructor, the producer of a
value, the setter of a field, a hook or an initializer returned. In the log it stands directly
behind what was reported up to then. The report names the root of the cause, and both the report and
the text of the record give the hint in place of the failure exactly if that is a missing
artifact. -/
theorem failures_carry_causes :
    (∀ error : PluginError,
      error.isMissingArtifact = true ↔ ∃ artifact, error.root = .missingArtifact artifact) ∧
    (∀ (ι : Type) (kind : Kind ι) (factory : Factory) (condition : Factory.Condition)
        (candidates earlier later : List Candidate) (candidate : Candidate) (error : PluginError),
      Factory.sortByPriority (Factory.admissible kind condition candidates) =
        earlier ++ candidate :: later →
      factory.sections.enables candidate.descriptor = true →
      isCompatible candidate.descriptor.apiVersion = true →
      candidate.constructor = some (.failed error) →
      ∃ (failure : PluginError) (event : Log.Event), failure.Carries error ∧
        failure.Logged error kind.category candidate.name "Error registering" event ∧
        ((factory.report (Factory.admissionLog kind condition candidates)).buildAll kind
            earlier).2.world.log ++ [.event event] <+:
          (factory.instantiate kind condition candidates).2.world.log) ∧
    (∀ (providers : List Injection.ProviderRecord) (world : World) (earlier later : List Pending)
        (pending : Pending) (error : PluginError),
      Injection.StoppedBy providers pending (Injection.serveAll providers earlier world).2 error →
      ∃ (failure : PluginError) (event : Log.Event), failure.Carries error ∧
        failure.Logged error pending.descriptor.category pending.descriptor.name
          "Error injecting dependencies into" event ∧
        failure.Worded error
          (pending.descriptor.category.label ++ " " ++ pending.descriptor.name ++ ": ")
          (InjectionFailure.message
            ⟨pending.descriptor.name, pending.descriptor.category, failure⟩) ∧
        (Injection.serveAll providers earlier world).1.failures ++
            [⟨pending.descriptor.name, pending.descriptor.category, failure⟩] <+:
          (Injection.serveAll providers (earlier ++ pending :: later) world).1.failures ∧
        (Injection.serve providers pending (Injection.serveAll providers earlier world).2).2.log ++
            [.event event] <+:
          (Injection.serveAll providers (earlier ++ pending :: later) world).2.log) ∧
    ∀ (registry : Registry) (point : InitPoint) (earlier later : List Host.Run) (run : Host.Run)
        (error : PluginError),
      Host.runsFrom (registry.assembled.due point) registry.assembled =
        earlier ++ run :: later →
      run.outcome = .error error →
      ∃ (failure : PluginError) (event : Log.Event), failure.Carries error ∧
        failure.Logged error .initializer run.name "Error executing" event ∧
        failure.Worded error ("initializer " ++ run.name ++ " (" ++ run.point.name ++ "): ")
          (InitializerFailure.message ⟨run.name, run.point, failure⟩) ∧
        earlier.filterMap Host.Run.failure? ++ [⟨run.name, run.point, failure⟩] <+:
          (Host.runInitializers registry point).1 ∧
        run.left.world.log ++ [.event event] <+:
          (Host.runInitializers registry point).2.world.log :=
  ⟨fun _ => isMissingArtifact_iff,
    fun _ _ _ _ _ _ _ _ _ turns enabled compatible returned =>
      Factory.instantiate_carries turns enabled compatible returned,
    fun _ _ _ _ _ _ stopped => Injection.serveAll_carries stopped,
    fun _ _ _ _ _ _ runs returned => Host.runInitializers_carries runs returned⟩

/-- A driver that cannot be made, a service whose hook finds no library, and an initializer that
finds none either. -/
theorem failures_carry_causes_of_missing_library :
    let error : PluginError := .other (.causedForeign "cannot open" (.missingArtifact "libusb"))
    let driver : Candidate :=
      { descriptor := ({ title := "Driver" } : Wiring).descriptor "demo" .provider
          { name := "driver" }
        constructor := some (.failed error) }
    let service : Pending :=
      let wiring : Wiring := { title := "Service", hooks := ["open"] }
      let descriptor := wiring.descriptor "demo" .service { name := "service" }
      ⟨descriptor, .make descriptor []
        ⟨0, wiring.plugin fun _ memory => ⟨.failed error, memory, []⟩⟩⟩
    let initializer : Record (Live Initializer) :=
      .make (({ title := "Starter" } : Wiring).descriptor "demo" .initializer
        { name := "starter" }) [] ⟨0, { init := fun _ => .finish (.failed error) }⟩
    let registry : Registry :=
      { discovery := fun _ => [], factory := { sections := [] }
        assembly := some
          { providers := [], validation := {}, valid := .ofValidation {} []
            initializers := [initializer], authMechanisms := [], authorizers := []
            tokenManager := none, authenticators := [], report := {} } }
    error.isMissingArtifact = true ∧
      (∃ (failure : PluginError) (event : Log.Event), failure.Carries error ∧
        event.message = "Error registering provider driver: " ++ missingArtifactHint ∧
        ("cause", .shown "missing external artifact 'libusb'") ∈ event.fields ∧
        .event event ∈ (({ sections := [] } : Factory).instantiate Kind.providers .always
          [driver]).2.world.log) ∧
      (∃ failure : PluginError, failure.Carries error ∧
        InjectionFailure.message ⟨"service", .service, failure⟩ =
          "service service: " ++ missingArtifactHint ∧
        ⟨"service", .service, failure⟩ ∈
          (Injection.serveAll [] [service] {}).1.failures) ∧
      ∃ failure : PluginError, failure.Carries error ∧
        InitializerFailure.message ⟨"starter", .afterStartup, failure⟩ =
          "initializer starter (after_startup): " ++ missingArtifactHint ∧
        ⟨"starter", .afterStartup, failure⟩ ∈
          (Host.runInitializers registry .afterStartup).1 := by
  intro error driver service initializer registry
  obtain ⟨rooted, constructors, injections, initializers⟩ := failures_carry_causes
  refine ⟨(rooted error).mpr ⟨"libusb", rfl⟩, ?_, ?_, ?_⟩
  · have turn : Factory.sortByPriority (Factory.admissible Kind.providers .always [driver]) =
        [] ++ driver :: [] := List.mergeSort_singleton driver
    obtain ⟨failure, event, carries, logged, reported⟩ := constructors Provider Kind.providers
      { sections := [] } .always [driver] [] [] driver error turn rfl (by decide) rfl
    refine ⟨failure, event, carries, logged.message.hinted "libusb" rfl, ?_,
      reported.subset (List.mem_append_right _ List.mem_cons_self)⟩
    rw [logged.fields]
    exact List.mem_cons_of_mem _ (List.mem_cons_of_mem _ List.mem_cons_self)
  · have declared : service.descriptor.methods =
        [] ++ ⟨"open", identityOf "Service::open"⟩ :: [] := rfl
    have stopped : Injection.StoppedBy [] service {} error :=
      .hook rfl declared rfl (by decide +kernel) rfl
    obtain ⟨failure, -, carries, -, worded, recorded, -⟩ :=
      injections [] {} [] [] service error stopped
    exact ⟨failure, carries, worded.hinted "libusb" rfl,
      recorded.subset (List.mem_append_right _ List.mem_cons_self)⟩
  · obtain ⟨failure, -, carries, -, worded, recorded, -⟩ := initializers registry .afterStartup
      [] [] ⟨initializer, registry⟩ error rfl rfl
    exact ⟨failure, carries, worded.hinted "libusb" rfl,
      recorded.subset (List.mem_append_right _ List.mem_cons_self)⟩

end PluginHost
