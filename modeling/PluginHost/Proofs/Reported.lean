import PluginHost.Proofs.Lasting
import PluginHost.Proofs.Startup.Runs

/-
This file says that nothing that was reported is taken back. Whatever the host does, building,
injecting, finding interceptors or running initializers, the log is only written on at its end.
-/

namespace PluginHost

namespace World

/-- The later log goes on from the earlier one. -/
def Tells (before after : World) : Prop := before.log <+: after.log

namespace Tells

variable {before between after : World}

theorem of_log (same : after.log = before.log) : Tells before after := by
  rw [Tells, same]

theorem refl (world : World) : Tells world world := of_log rfl

theorem trans (first : Tells before between) (second : Tells between after) :
    Tells before after := List.IsPrefix.trans first second

theorem reportAll (world : World) (events : List Log.Event) :
    Tells world (world.reportAll events) :=
  List.prefix_append _ _

theorem report (world : World) (event : Log.Event) : Tells world (world.report event) :=
  .reportAll world [event]

theorem settle {α : Type} (world : World) (id : Nat) (reply : Reply α) :
    Tells world (world.settle id reply) := .reportAll (world.setMemory id reply.memory) reply.events

theorem lasting : Lasting Tells := ⟨refl, trans, report⟩

end Tells

end World

open World (Tells)

namespace Factory

variable {ι : Type}

theorem recordType_tells (factory : Factory) (kind : Kind ι) (descriptor : Descriptor)
    (made : Instance) : Tells factory.world (factory.recordType kind descriptor made).2.world := by
  unfold recordType
  split
  · dsimp only
    split <;> exact .of_log rfl
  · exact .refl _

theorem construct_tells (factory : Factory) (kind : Kind ι) (candidate : Candidate) :
    Tells factory.world (factory.construct kind candidate).2.world := by
  have summoned : (factory.summon candidate).world.log = factory.world.log := by
    unfold summon
    split <;> rfl
  have asked {made : Instance} {outcome : Except PluginError Unit} {after : Factory}
      (answer : factory.ask kind candidate made = (outcome, after)) :
      Tells factory.world after.world := by
    have told := recordType_tells ((factory.summon candidate).house candidate made) kind
      candidate.descriptor made
    rw [← ask, answer] at told
    have housed : ((factory.summon candidate).house candidate made).world.log =
        factory.world.log := summoned
    exact (Tells.of_log housed).trans told
  have ends := factory.construct_ends kind candidate
  generalize factory.construct kind candidate = answer at ends ⊢
  cases ends with
  | unmade error nothing => exact .of_log summoned
  | untyped makes answer => exact asked answer
  | misfit makes answer unselected => exact asked answer
  | built makes answer selected => exact asked answer

theorem build?_tells (factory : Factory) (kind : Kind ι) (candidate : Candidate) :
    Tells factory.world (factory.build? kind candidate).2.world := by
  unfold build?
  split
  · exact .reportAll _ _
  · have told := factory.construct_tells kind candidate
    generalize factory.construct kind candidate = answer at told ⊢
    obtain ⟨outcome, after⟩ := answer
    cases outcome with
    | ok live => exact told.trans (.reportAll _ _)
    | error error => exact told.trans (.reportAll _ _)

theorem buildAll_tells (factory : Factory) (kind : Kind ι) (candidates : List Candidate) :
    Tells factory.world (factory.buildAll kind candidates).2.world := by
  induction candidates generalizing factory with
  | nil => exact .refl _
  | cons candidate rest ih => exact (factory.build?_tells kind candidate).trans (ih _)

end Factory

namespace Injection

variable {providers : List ProviderRecord}

theorem produce_tells (world : World) (provider : ProviderRecord) (plugin : String)
    (consumer : Record (Live Plugin)) :
    Tells world (produce world provider plugin consumer).2 := .settle _ provider.plugin.id _

theorem deliver_tells (world : World) (consumer : Record (Live Plugin)) (field : String)
    (value : Provided) : Tells world (deliver world consumer field value).2 := by
  unfold deliver
  dsimp only
  split <;> exact .of_log rfl

theorem invoke_tells (world : World) (consumer : Record (Live Plugin)) (method : String) :
    Tells world (invoke world consumer method).2 := by
  unfold invoke
  dsimp only
  split
  · exact .of_log rfl
  · exact .settle (world.calledOn consumer.plugin.face _) consumer.plugin.id _

theorem serve_tells (pending : Pending) (world : World) :
    Tells world (serve providers pending world).2 :=
  Tells.lasting.serve
    (fun _ _ _ => Tells.lasting.fillField (fun _ _ now => produce_tells now _ _ _)
      fun _ now => deliver_tells now _ _ _)
    fun _ _ _ => Tells.lasting.runHook fun _ now => invoke_tells now _ _

theorem serveAll_tells (waiting : List Pending) (world : World) :
    Tells world (serveAll providers waiting world).2 :=
  Tells.lasting.serveAll fun pending _ now => serve_tells pending now

end Injection

namespace Interception

theorem accepting_tells (target : Contract) (records : List ExchangerRecord) (world : World) :
    Tells world (accepting target records world).2 := by
  induction records generalizing world with
  | nil => exact .refl world
  | cons record rest ih =>
      have read : Tells world (readContract world record).2 := .of_log rfl
      rw [accepting]
      generalize readContract world record = answer at read ⊢
      obtain ⟨outcome, next⟩ := answer
      cases outcome with
      | ok contract => exact read.trans (ih next)
      | error error => exact read.trans ((Tells.report next _).trans (ih _))

theorem applicable_tells (interceptors : List ExchangerRecord) (service : Option ExchangerRecord)
    (point : InterceptPoint) (world : World) :
    Tells world (applicable interceptors service point world).2 := by
  cases service with
  | none => exact accepting_tells _ _ world
  | some record =>
      have read : Tells world (readContract world record).2 := .of_log rfl
      unfold applicable
      dsimp only
      split
      · exact .refl world
      · generalize readContract world record = answer at read ⊢
        obtain ⟨outcome, next⟩ := answer
        cases outcome with
        | ok target => exact read.trans (accepting_tells _ _ next)
        | error error => exact read.trans (.report next _)

theorem compute_tells (interceptors services : List ExchangerRecord) (service : Option String)
    (point : InterceptPoint) (world : World) :
    Tells world (compute interceptors services service point world).2 := by
  unfold compute
  split
  · exact applicable_tells _ _ point world
  · split
    · exact applicable_tells _ _ point world
    · exact .report world _

end Interception

namespace Registry

variable {registry : Registry}

theorem report_tells (registry : Registry) (event : Log.Event) :
    Tells registry.world (registry.report event).world := .report registry.world event

theorem lookUp_tells (present : registry.assembly.isSome = true) (service : Option String)
    (point : InterceptPoint) : Tells registry.world (registry.lookUp service point).2.world := by
  have computed := Interception.compute_tells registry.interceptors registry.services service
    point registry.world
  obtain ⟨-, kept, rest⟩ := registry.views.serve_undisturbed (service, point) registry.world
    (Interception.compute registry.interceptors registry.services service point)
  unfold lookUp
  rw [assembled_eq present]
  dsimp only
  generalize registry.views.serve _ _ _ = served at kept rest ⊢
  rw [kept, if_pos rfl]
  change Tells registry.world served.rest
  rcases rest with same | found
  · rw [same]
    exact .refl _
  · rw [found]
    exact computed

theorem carryOut_tells (present : registry.assembly.isSome = true) (request : Request) :
    Tells registry.world (registry.carryOut request).2.world := by
  have same := assembled_eq present
  cases request with
  | services =>
      rw [carryOut, enabledServices, same]
      exact .refl _
  | interceptors =>
      rw [carryOut, enabledInterceptors, same]
      exact .refl _
  | interceptorsFor service point => exact lookUp_tells present service point
  | sharesView service point =>
      have first := lookUp_tells present service point
      have stays := (carryOut_keeps present (.interceptorsFor service point)).1
      exact first.trans (lookUp_tells (stays ▸ present) service point)
  | addService descriptor sections face =>
      have enrolled : (registry.enroll descriptor sections face).2.assembly.isSome = true := present
      change Tells registry.world
        ((registry.enroll descriptor sections face).2.assembled.report _).world
      rw [assembled_eq enrolled]
      exact report_tells _ _
  | addInterceptor descriptor sections face =>
      have enrolled : (registry.enroll descriptor sections face).2.assembly.isSome = true := present
      change Tells registry.world
        ((registry.enroll descriptor sections face).2.assembled.report _).world
      rw [assembled_eq enrolled]
      exact report_tells _ _
  | removeServices selects =>
      rw [carryOut, removeServices, same]
      exact .refl _
  | removeInterceptors selects =>
      rw [carryOut, removeInterceptors, same]
      exact .refl _

theorem runProgram_tells (initializer : Record (Live Initializer)) (program : Program)
    (registry : Registry) (present : registry.assembly.isSome = true) :
    Tells registry.world (runProgram initializer program registry).2.world := by
  induction program generalizing registry with
  | finish outcome => exact .refl _
  | report event rest ih => exact (report_tells registry event).trans (ih _ present)
  | note label detail rest ih =>
      let world := registry.world.calledOn initializer.plugin.face.toPlugin
        (.note initializer.name label detail)
      exact ih (registry.setWorld world) present
  | ask request next ih =>
      have told := carryOut_tells present request
      have stays := (carryOut_keeps present request).1
      rw [runProgram]
      generalize registry.carryOut request = answered at told stays ⊢
      obtain ⟨outcome, asked⟩ := answered
      cases outcome with
      | error panic => exact told
      | ok answer => exact told.trans (ih answer asked (stays ▸ present))

theorem Logs.tells {before after : Registry} (logs : before.Logs after) :
    Tells before.world after.world := by
  obtain ⟨entries, rfl⟩ := logs
  exact List.prefix_append _ entries

end Registry

namespace Host

theorem Run.left_tells {run : Run} (present : run.met.assembly.isSome = true) :
    Tells run.met.world run.left.world := by
  let face := run.initializer.plugin.face
  let world := run.met.world.calledOn face.toPlugin (.init run.name)
  exact Registry.runProgram_tells run.initializer
    (face.init (world.memory run.initializer.plugin.id)) (run.met.setWorld world) present

theorem Leads.tells {before after : Registry} {runs : List Run} (leads : Leads before runs after)
    (present : before.assembly.isSome = true) : Tells before.world after.world := by
  induction leads with
  | still logs => exact logs.tells
  | run logs _ ih =>
      have met := logs.assembly ▸ present
      have left := Run.left_tells met
      exact logs.tells.trans (left.trans (ih ((Run.left_spec met).1 ▸ met)))

end Host

end PluginHost
