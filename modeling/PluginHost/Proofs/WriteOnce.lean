import PluginHost.Proofs.Lasting
import PluginHost.Proofs.Slots
import PluginHost.Wiring

/-
This file says of plugin code that it takes no value out of a slot, and proves that under such code
an injection never loses what it has delivered.
-/

namespace PluginHost

/-- Whatever a slot holds before, it holds after. -/
def Memory.Keeps (before after : Memory) : Prop :=
  ∀ field value, before.slots.content? field = some value → after.slots.content? field = some value

/-- A slot is written once, so no hook changes the content of a slot that is set. -/
def Plugin.WriteOnce (plugin : Plugin) : Prop :=
  ∀ method run, plugin.hook? method = some run →
    ∀ memory : Memory, memory.Keeps (run memory).memory

def Provider.WriteOnce (provider : Provider) : Prop :=
  provider.toPlugin.WriteOnce ∧
    ∀ (shown : Record Plugin) (memory : Memory), memory.Keeps (provider.produce shown memory).memory

theorem Memory.Keeps.refl (memory : Memory) : memory.Keeps memory := fun _ _ held => held

theorem Wiring.plugin_writeOnce {wiring : Wiring} {run : String → Memory → Reply Unit}
    (keeps : ∀ (method : String) (memory : Memory), memory.Keeps (run method memory).memory) :
    (wiring.plugin run).WriteOnce := by
  intro method body found memory
  unfold Wiring.plugin at found
  dsimp only at found
  by_cases listed : wiring.hooks.contains method
  · rw [if_pos listed] at found
    cases found
    exact keeps method memory
  · rw [if_neg listed] at found
    cases found

namespace World

theorem memory_setMemory_cases (world : World) (id : Nat) (memory : Memory) (other : Nat) :
    (world.setMemory id memory).memory other = world.memory other ∨
      other = id ∧ (world.setMemory id memory).memory other = memory := by
  by_cases same : other = id
  · subst same
    by_cases present : other < world.residents.length
    · exact .inr ⟨rfl, by simp [World.memory, setMemory, present]⟩
    · have beyond : world.residents[other]? = none := List.getElem?_eq_none (by omega)
      exact .inl (by simp [World.memory, setMemory, beyond])
  · have differs : ¬ id = other := fun equal => same equal.symm
    exact .inl (by simp [World.memory, setMemory, differs])

theorem memory_settle_cases {α : Type} (world : World) (id : Nat) (reply : Reply α) (other : Nat) :
    (world.settle id reply).memory other = world.memory other ∨
      other = id ∧ (world.settle id reply).memory other = reply.memory :=
  world.memory_setMemory_cases id reply.memory other

/-- No instance loses the content of a slot. -/
def Keeps (before after : World) : Prop := ∀ id, (before.memory id).Keeps (after.memory id)

namespace Keeps

variable {before between after : World}

theorem of_residents (same : after.residents = before.residents) : Keeps before after := by
  intro id field value held
  rwa [World.memory, same]

theorem refl (world : World) : Keeps world world := of_residents rfl

theorem trans (first : Keeps before between) (second : Keeps between after) : Keeps before after :=
  fun id field value held => second id field value (first id field value held)

theorem setMemory {id : Nat} {memory : Memory} (keeps : (before.memory id).Keeps memory) :
    Keeps before (before.setMemory id memory) := by
  intro other field value held
  rcases before.memory_setMemory_cases id memory other with same | ⟨rfl, changed⟩
  · rwa [same]
  · rw [changed]
    exact keeps field value held

theorem settle {α : Type} {id : Nat} {reply : Reply α}
    (keeps : (before.memory id).Keeps reply.memory) : Keeps before (before.settle id reply) :=
  (setMemory keeps).trans (of_residents rfl)

theorem lasting : Lasting Keeps where
  refl := refl
  trans := trans
  report := fun _ _ => of_residents rfl

end Keeps

end World

namespace Injection

variable {providers : List ProviderRecord} {descriptor : Descriptor}
  {consumer : Record (Live Plugin)} {world : World}

theorem produce_keeps {provider : ProviderRecord} (writes : provider.plugin.face.WriteOnce)
    (plugin : String) : World.Keeps world (produce world provider plugin consumer).2 :=
  World.Keeps.settle (writes.2 _ _)

theorem deliver_keeps (field : String) (value : Provided) :
    World.Keeps world (deliver world consumer field value).2 := by
  unfold deliver
  dsimp only
  split
  · rename_i slots filled
    refine World.Keeps.trans (.of_residents rfl) (World.Keeps.setMemory ?_)
    intro name content held
    obtain ⟨empty, contents⟩ := Slots.content?_inject filled
    rw [contents name, if_neg]
    · exact held
    · rintro rfl
      cases empty.symm.trans held
  · exact .of_residents rfl

theorem invoke_keeps (writes : consumer.plugin.face.WriteOnce) (method : String) :
    World.Keeps world (invoke world consumer method).2 := by
  unfold invoke
  dsimp only
  split
  · exact .of_residents rfl
  · rename_i run found
    exact World.Keeps.settle fun field value held => writes method run found _ field value held

theorem runHooks_keeps (writes : consumer.plugin.face.WriteOnce) (hooks : List MethodInjection) :
    World.Keeps world (runHooks descriptor consumer hooks world).2 :=
  World.Keeps.lasting.runHooks fun _ _ _ => World.Keeps.lasting.runHook fun _ _ =>
    invoke_keeps writes _

theorem fillField_keeps (writes : ∀ provider ∈ providers, provider.plugin.face.WriteOnce)
    (field : FieldInjection) :
    World.Keeps world (fillField providers descriptor consumer field world).2 := by
  apply World.Keeps.lasting.fillField
  · exact fun provider found now =>
      produce_keeps (writes provider (List.mem_of_find?_eq_some found)) _
  · exact fun value now => deliver_keeps _ value

theorem fillFields_keeps (writes : ∀ provider ∈ providers, provider.plugin.face.WriteOnce)
    (fields : List FieldInjection) :
    World.Keeps world (fillFields providers descriptor consumer fields world).2 :=
  World.Keeps.lasting.fillFields fun field _ _ => fillField_keeps writes field

/-- The hooks take away nothing that was filled. -/
theorem serve_keeps_filled {pending : Pending} (writes : pending.record.plugin.face.WriteOnce) :
    World.Keeps (fillFields providers pending.descriptor pending.record
        pending.descriptor.fields world).2 (serve providers pending world).2 := by
  unfold serve
  generalize fillFields providers pending.descriptor pending.record pending.descriptor.fields
    world = answer
  obtain ⟨outcome, next⟩ := answer
  cases outcome with
  | error cause => exact .refl next
  | ok done => exact runHooks_keeps writes _

theorem serve_keeps (writes : ∀ provider ∈ providers, provider.plugin.face.WriteOnce)
    {pending : Pending} (also : pending.record.plugin.face.WriteOnce) :
    World.Keeps world (serve providers pending world).2 :=
  (fillFields_keeps writes _).trans (serve_keeps_filled also)

/-- What a plugin was given, it holds when all plugins have been served. -/
theorem serveAll_keeps (writes : ∀ provider ∈ providers, provider.plugin.face.WriteOnce)
    {waiting : List Pending} (also : ∀ pending ∈ waiting, pending.record.plugin.face.WriteOnce) :
    World.Keeps world (serveAll providers waiting world).2 :=
  World.Keeps.lasting.serveAll fun pending waits _ => serve_keeps writes (also pending waits)

theorem serveAll_keeps_served (writes : ∀ provider ∈ providers, provider.plugin.face.WriteOnce)
    (first : Pending) {rest : List Pending}
    (also : ∀ pending ∈ rest, pending.record.plugin.face.WriteOnce) :
    World.Keeps (serve providers first world).2 (serveAll providers (first :: rest) world).2 := by
  rw [serveAll]
  generalize serve providers first world = answer
  obtain ⟨outcome, next⟩ := answer
  cases outcome with
  | ok done => exact serveAll_keeps writes also
  | error error =>
      have told := World.Keeps.lasting.report next (failureEvent first.descriptor.category
        first.descriptor.name "Error injecting dependencies into" error)
      exact told.trans (serveAll_keeps writes also)

end Injection

end PluginHost
