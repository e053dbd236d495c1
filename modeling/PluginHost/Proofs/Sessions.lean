import PluginHost.Proofs.Lasting
import PluginHost.Proofs.World

/-
This file follows the calls that injection makes into plugin code. The plugins that wait are served
one after the other, and what is called for one of them is a part of the journal by itself.
-/

namespace PluginHost.Injection

variable {providers : List ProviderRecord} {descriptor : Descriptor}
  {consumer : Record (Live Plugin)} {world : World} {allowed : Call → Prop}

theorem grows_lasting (allowed : Call → Prop) : Lasting (World.Grows allowed) where
  refl := .refl
  trans := .trans
  report := fun world _ => .refl world

theorem produce_grows {provider : ProviderRecord} (plugin : String)
    (fits : allowed (.produce provider.name consumer.name)) :
    World.Grows allowed world (produce world provider plugin consumer).2 :=
  .called world fits _

theorem deliver_grows {field : String} (value : Provided)
    (fits : allowed (.inject consumer.name field)) :
    World.Grows allowed world (deliver world consumer field value).2 := by
  unfold deliver
  dsimp only
  split <;> exact .called world fits _

theorem invoke_grows {method : String} (fits : allowed (.invoke consumer.name method)) :
    World.Grows allowed world (invoke world consumer method).2 := by
  unfold invoke
  dsimp only
  split <;> exact .called world fits _

/-- The calls that serve a plugin. -/
inductive Serves (providers : List ProviderRecord) (descriptor : Descriptor)
    (consumer : Record (Live Plugin)) : Call → Prop where
  | produce {field : FieldInjection} {provider : ProviderRecord}
      (declared : field ∈ descriptor.fields)
      (found : provider? providers field.provider = some provider) :
      Serves providers descriptor consumer (.produce provider.name consumer.name)
  | inject {field : FieldInjection} (declared : field ∈ descriptor.fields) :
      Serves providers descriptor consumer (.inject consumer.name field.field)
  | invoke {hook : MethodInjection} (declared : hook ∈ descriptor.methods) :
      Serves providers descriptor consumer (.invoke consumer.name hook.method)

/-- The injection of a plugin makes no calls but those that serve it. -/
theorem serve_grows (providers : List ProviderRecord) (pending : Pending) (world : World) :
    World.Grows (Serves providers pending.descriptor pending.record) world
      (serve providers pending world).2 := by
  apply (grows_lasting _).serve
  · intro field declared now
    apply (grows_lasting _).fillField
    · exact fun provider found now => produce_grows _ (.produce declared found)
    · exact fun value now => deliver_grows value (.inject declared)
  · intro hook declared now
    exact (grows_lasting _).runHook fun _ now => invoke_grows (.invoke declared)

/-- The injection of one plugin, with the calls it has made. -/
structure Session where
  pending : Pending
  calls : List JournalEntry

/-- The session is one injection of its plugin from the beginning to the end. -/
def Session.Runs (providers : List ProviderRecord) (session : Session) : Prop :=
  ∃ world, (serve providers session.pending world).2.journal = world.journal ++ session.calls ∧
    ∀ entry ∈ session.calls,
      Serves providers session.pending.descriptor session.pending.record entry.call

/-- Whoever waits has one session, and the sessions follow one another. -/
theorem serveAll_sessions (providers : List ProviderRecord) (waiting : List Pending)
    (world : World) :
    ∃ sessions : List Session, sessions.map Session.pending = waiting ∧
      (∀ session ∈ sessions, session.Runs providers) ∧
        (serveAll providers waiting world).2.journal =
          world.journal ++ sessions.flatMap Session.calls := by
  induction waiting generalizing world with
  | nil => exact ⟨[], rfl, List.forall_mem_nil _, (List.append_nil _).symm⟩
  | cons pending rest ih =>
      obtain ⟨calls, added, serves⟩ := serve_grows providers pending world
      have runs : Session.Runs providers ⟨pending, calls⟩ := ⟨world, added, serves⟩
      rw [serveAll]
      generalize serve providers pending world = answer at added ⊢
      obtain ⟨outcome, next⟩ := answer
      have resume : ∀ after : World, after.journal = next.journal →
          ∃ sessions : List Session, sessions.map Session.pending = pending :: rest ∧
            (∀ session ∈ sessions, session.Runs providers) ∧
              (serveAll providers rest after).2.journal =
                world.journal ++ sessions.flatMap Session.calls := by
        intro after same
        obtain ⟨sessions, waited, run, journal⟩ := ih after
        refine ⟨⟨pending, calls⟩ :: sessions, by rw [List.map_cons, waited], ?_, ?_⟩
        · exact List.forall_mem_cons.mpr ⟨runs, run⟩
        · rw [journal, same, added, List.flatMap_cons, List.append_assoc]
      cases outcome with
      | ok done => exact resume next rfl
      | error error => exact resume (next.report _) rfl

end PluginHost.Injection
