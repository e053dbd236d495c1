import PluginHost.Declaration.Basic
import PluginHost.Proofs.Serving
import PluginHost.Proofs.Sessions

/-
This file proves that the table of a wiring and its dispatch agree: what the table lists can be
injected and called, and nothing else can. An injection therefore never asks for what is missing.
-/

namespace PluginHost

namespace Wiring

variable {wiring : Wiring} {slots : Slots}

theorem field_mem_injections {injection : FieldInjection} :
    InjectionPoint.field injection ∈ wiring.injections ↔ injection ∈ wiring.fields := by
  simp [injections]

theorem method_mem_injections {hook : MethodInjection} :
    InjectionPoint.method hook ∈ wiring.injections ↔
      ∃ method ∈ wiring.hooks, ⟨method, identityOf (wiring.hookKey method)⟩ = hook := by
  simp [injections]

theorem slots_names : wiring.slots.map Prod.fst = wiring.injectable := by
  simp [slots, injectable]

/-- Which slots an instance of the wiring has is settled by the table, and so is which hooks. -/
structure Dispatches (wiring : Wiring) : Prop where
  injectable : wiring.injectable.Nodup
  callable : wiring.callable.Nodup
  listed : ∀ name, name ∈ wiring.injectable ↔
    ∃ injection, .field injection ∈ wiring.injections ∧ injection.field = name
  hooked : ∀ method, method ∈ wiring.callable ↔
    ∃ hook, .method hook ∈ wiring.injections ∧ hook.method = method
  unknown : ∀ slots : Slots, slots.shape = wiring.slots → ∀ name value,
    slots.inject name value = .error (.unknownField name) ↔
      ¬ ∃ injection, .field injection ∈ wiring.injections ∧ injection.field = name
  known : ∀ slots : Slots, slots.shape = wiring.slots →
    ∀ injection, .field injection ∈ wiring.injections →
      ∃ front slot back, slots = front ++ (injection.field, slot) :: back ∧
        slot.type = injection.declaredType ∧ ∀ value, slots.inject injection.field value =
          (slot.fill injection.field value).map fun filled =>
            front ++ (injection.field, filled) :: back
  answered : ∀ (run : String → Memory → Reply Unit) method,
    (wiring.plugin run).hook? method = some (run method) ↔
      ∃ hook, .method hook ∈ wiring.injections ∧ hook.method = method
  unanswered : ∀ (run : String → Memory → Reply Unit) method,
    (wiring.plugin run).hook? method = none ↔
      ¬ ∃ hook, .method hook ∈ wiring.injections ∧ hook.method = method

theorem mem_injectable {name : String} : name ∈ wiring.injectable ↔
    ∃ injection, .field injection ∈ wiring.injections ∧ injection.field = name := by
  simp only [injectable, List.mem_map, field_mem_injections]

theorem mem_hooks {method : String} : method ∈ wiring.hooks ↔
    ∃ hook, .method hook ∈ wiring.injections ∧ hook.method = method := by
  simp only [method_mem_injections]
  constructor
  · exact fun listed => ⟨_, ⟨method, listed, rfl⟩, rfl⟩
  · rintro ⟨hook, ⟨other, listed, rfl⟩, rfl⟩
    exact listed

theorem hook?_of_mem {method : String} (listed : method ∈ wiring.hooks)
    (run : String → Memory → Reply Unit) : (wiring.plugin run).hook? method = some (run method) :=
  if_pos (List.contains_iff_mem.mpr listed)

theorem hook?_of_not_mem {method : String} (unlisted : method ∉ wiring.hooks)
    (run : String → Memory → Reply Unit) : (wiring.plugin run).hook? method = none :=
  if_neg fun contained => unlisted (List.contains_iff_mem.mp contained)

/-- The slot that a field of the table names is the first of its name, and has its type. -/
theorem slot_of_field (distinct : wiring.injectable.Nodup) (shaped : slots.shape = wiring.slots)
    {injection : FieldInjection} (listed : injection ∈ wiring.fields) :
    ∃ front slot back, slots = front ++ (injection.field, slot) :: back ∧
      (∀ entry ∈ front, entry.1 ≠ injection.field) ∧ slot.type = injection.declaredType := by
  have entered : (injection.field, injection.declaredType) ∈ slots.shape := by
    rw [shaped]
    exact List.mem_map_of_mem listed
  rcases Slots.absent_or_first slots injection.field with absent | ⟨front, slot, back, rfl, others⟩
  · obtain ⟨entry, present, same⟩ := List.mem_map.mp entered
    exact absurd (Prod.mk.inj same).1 (absent entry present)
  · refine ⟨front, slot, back, rfl, others, ?_⟩
    have first : (injection.field, slot.type) ∈ wiring.slots := by
      rw [← shaped]
      exact List.mem_map_of_mem (List.mem_append_right front List.mem_cons_self)
    obtain ⟨other, otherListed, same⟩ := List.mem_map.mp first
    obtain ⟨named, typed⟩ := Prod.mk.inj same
    rw [← typed, List.inj_on_of_nodup_map distinct otherListed listed named]

theorem nodup_eraseDups (names : List String) : names.eraseDups.Nodup := by
  induction size : names.length using Nat.strongRecOn generalizing names with
  | ind length ih =>
      cases names with
      | nil => exact List.nodup_nil
      | cons name rest =>
          have shorter : (rest.filter fun other => !other == name).length < length := by
            rw [← size, List.length_cons]
            exact Nat.lt_succ_of_le (List.length_filter_le _ _)
          rw [List.eraseDups_cons, List.nodup_cons, List.mem_eraseDups]
          exact ⟨by simp, ih _ shorter _ rfl⟩

/-- The table and the dispatch of a wiring whose fields have different names agree. -/
theorem dispatches (distinct : wiring.injectable.Nodup) : wiring.Dispatches where
  injectable := distinct
  callable := nodup_eraseDups _
  listed := fun name => mem_injectable
  hooked := fun method => by rw [callable, List.mem_eraseDups, mem_hooks]
  unknown := by
    intro slots shaped name value
    rw [Slots.inject_eq_unknownField_iff, shaped, slots_names, mem_injectable]
    exact and_iff_right rfl
  known := by
    intro slots shaped injection entry
    obtain ⟨front, slot, back, rfl, others, typed⟩ :=
      slot_of_field distinct shaped (field_mem_injections.mp entry)
    exact ⟨front, slot, back, rfl, typed, Slots.inject_first others slot back⟩
  answered := by
    intro run method
    rw [← mem_hooks]
    refine ⟨fun found => ?_, fun listed => hook?_of_mem listed run⟩
    by_contra unlisted
    rw [hook?_of_not_mem unlisted run] at found
    cases found
  unanswered := by
    intro run method
    rw [← mem_hooks]
    refine ⟨fun missing listed => ?_, fun unlisted => hook?_of_not_mem unlisted run⟩
    rw [hook?_of_mem listed run] at missing
    cases missing

end Wiring

namespace Injection

variable {providers : List ProviderRecord} {wiring : Wiring} {run : String → Memory → Reply Unit}
  {pending : Pending} {world : World}

/-- A provider that is asked to serve itself keeps the names and types of its slots. -/
def KeepsShape (providers : List ProviderRecord) (consumer : Record (Live Plugin)) : Prop :=
  ∀ provider ∈ providers, provider.plugin.id = consumer.plugin.id →
    ∀ (shown : Record Plugin) (memory : Memory),
      (provider.plugin.face.produce shown memory).memory.slots.shape = memory.slots.shape

/-- The slots of an instance in a world. -/
def shape (consumer : Record (Live Plugin)) (world : World) : List (String × TypeInfo) :=
  (world.memory consumer.plugin.id).slots.shape

theorem shape_lasting (consumer : Record (Live Plugin)) :
    Lasting fun before after => shape consumer after = shape consumer before where
  refl := fun _ => rfl
  trans := fun first second => second.trans first
  report := fun _ _ => rfl

theorem shape_produce {consumer : Record (Live Plugin)} (keeps : KeepsShape providers consumer)
    {provider : ProviderRecord} (listed : provider ∈ providers) (world : World)
    (plugin : String) :
    shape consumer (produce world provider plugin consumer).2 = shape consumer world := by
  rcases produce_memory_cases world provider plugin consumer consumer.plugin.id with
    untouched | ⟨same, changed⟩
  · rw [shape, untouched, shape]
  · rw [shape, changed, keeps provider listed same, shape]

theorem shape_deliver (world : World) (consumer : Record (Live Plugin)) (name : String)
    (value : Provided) :
    shape consumer (deliver world consumer name value).2 = shape consumer world := by
  cases filled : (world.memory consumer.plugin.id).slots.inject name value with
  | error cause =>
      rw [deliver_refused filled]
      rfl
  | ok slots =>
      rw [deliver_filled filled]
      rcases World.memory_setMemory_cases
        (world.calledOn consumer.plugin.face (.inject consumer.name name)) consumer.plugin.id
        { world.memory consumer.plugin.id with slots := slots } consumer.plugin.id with
        untouched | ⟨-, changed⟩
      · rw [shape, untouched]
        rfl
      · rw [shape, changed]
        exact Slots.shape_inject filled

/-- The plugin is described by the table of the wiring, and its instance is dispatched by it. -/
structure Wired (wiring : Wiring) (pending : Pending) (world : World) : Prop where
  table : pending.descriptor.injections = wiring.injections
  dispatch : ∃ run, pending.record.plugin.face = wiring.plugin run
  shaped : shape pending.record world = wiring.slots

namespace Wired

theorem fields (wired : Wired wiring pending world) :
    pending.descriptor.fields = wiring.fields := by
  rw [Descriptor.fields, wired.table, Wiring.injections, List.filterMap_append]
  simp [List.filterMap_map, Function.comp_def, InjectionPoint.field?]

theorem methods (wired : Wired wiring pending world) :
    pending.descriptor.methods =
      wiring.hooks.map fun method => ⟨method, identityOf (wiring.hookKey method)⟩ := by
  rw [Descriptor.methods, wired.table, Wiring.injections, List.filterMap_append]
  simp [List.filterMap_map, Function.comp_def, InjectionPoint.method?]

end Wired

theorem shape_fillFields {consumer : Record (Live Plugin)} (keeps : KeepsShape providers consumer)
    (descriptor : Descriptor) (fields : List FieldInjection) (world : World) :
    shape consumer (fillFields providers descriptor consumer fields world).2 =
      shape consumer world := by
  apply (shape_lasting consumer).fillFields
  intro field _ now
  apply (shape_lasting consumer).fillField
  · exact fun provider found next => shape_produce keeps (provider?_spec found).1 next _
  · exact fun value next => shape_deliver next consumer field.field value

/-- Every field of the table has a slot. -/
theorem FieldFailure.known {field : FieldInjection} {error : PluginError} {now : World}
    (failure : FieldFailure providers pending.descriptor pending.record field now error)
    (keeps : KeepsShape providers pending.record) (shaped : shape pending.record now = wiring.slots)
    (listed : field ∈ wiring.fields) (plugin name unknown : String) :
    error ≠ .causedConfiguration plugin ("cannot inject field '" ++ name ++ "'")
      (.injection (.unknownField unknown)) := by
  intro same
  cases failure with
  | unresolved absent => cases same
  | unproduced served failed =>
      exact provider_message_ne name field.provider
        (PluginError.causedConfiguration.inj same).2.1.symm
  | @undelivered provider value cause served produced refused =>
      have reason : cause = .unknownField unknown :=
        PluginError.injection.inj (PluginError.causedConfiguration.inj same).2.2
      rw [reason] at refused
      have missing := (Slots.inject_eq_unknownField_iff.mp (deliver_error refused)).2
      have kept := shape_produce keeps (provider?_spec served).1 now pending.descriptor.name
      rw [shape, shaped] at kept
      rw [kept, Wiring.slots_names] at missing
      exact missing (List.mem_map_of_mem listed)

/-- No field fails for want of a method. -/
theorem FieldFailure.not_configuration {field : FieldInjection} {error : PluginError} {now : World}
    {descriptor : Descriptor} {consumer : Record (Live Plugin)}
    (failure : FieldFailure providers descriptor consumer field now error)
    (plugin message : String) : error ≠ .configuration plugin message := by
  intro same
  cases failure <;> cases same

/-- A hook that is found does not fail for want of a method. -/
theorem runHook_not_configuration {descriptor : Descriptor} {consumer : Record (Live Plugin)}
    {hook : MethodInjection} {error : PluginError} {body : Memory → Reply Unit}
    (found : consumer.plugin.face.hook? hook.method = some body)
    (failed : (runHook descriptor consumer hook world).1 = .error error)
    (plugin message : String) : error ≠ .configuration plugin message := by
  intro same
  subst same
  have answered : (invoke world consumer hook.method).1 ≠ none := by
    unfold invoke
    dsimp only
    rw [found]
    exact Option.some_ne_none _
  unfold runHook at failed
  dsimp only at failed
  by_cases tagged : timesTagged descriptor hook ≠ 1
  · rw [if_pos tagged] at failed
    cases failed
  · rw [if_neg tagged] at failed
    generalize invoke world consumer hook.method = answer at failed answered
    obtain ⟨outcome, next⟩ := answer
    rcases outcome with _ | ⟨_ | cause | panic⟩
    · exact answered rfl
    · cases failed
    · cases failed
    · cases failed

/-- A method is tagged as often as it is listed, or more often. -/
theorem count_le_timesTagged (wired : Wired wiring pending world) (method : String) :
    wiring.hooks.count method ≤
      timesTagged pending.descriptor ⟨method, identityOf (wiring.hookKey method)⟩ := by
  rw [timesTagged, wired.methods, ← List.countP_eq_length_filter, List.countP_map, List.count]
  apply List.countP_mono_left
  intro other _ same
  rw [beq_iff_eq.mp same]
  exact beq_self_eq_true _

/-- A plugin that is not served has failed at a field of the table, while it had the slots of the
table, or at a hook of the table. -/
theorem Wired.serve_error {error : PluginError} (wired : Wired wiring pending world)
    (keeps : KeepsShape providers pending.record)
    (failed : (serve providers pending world).1 = .error error) :
    (∃ field ∈ wiring.fields, ∃ now, shape pending.record now = wiring.slots ∧
        FieldFailure providers pending.descriptor pending.record field now error) ∨
      ∃ hook now, hook.method ∈ wiring.hooks ∧
        (runHook pending.descriptor pending.record hook now).1 = .error error := by
  unfold serve at failed
  generalize filled : fillFields providers pending.descriptor pending.record
    pending.descriptor.fields world = answer at failed
  obtain ⟨outcome, next⟩ := answer
  cases outcome with
  | error cause =>
      cases failed
      obtain ⟨before, field, after, declared, failure⟩ :=
        fillFields_error (congrArg Prod.fst filled)
      have listed : field ∈ wiring.fields := by
        rw [← wired.fields, declared]
        exact List.mem_append_right _ List.mem_cons_self
      have shaped := shape_fillFields keeps pending.descriptor before world
      exact .inl ⟨field, listed, _, shaped.trans wired.shaped, failure⟩
  | ok done =>
      dsimp only at failed
      generalize ran : runHooks pending.descriptor pending.record pending.descriptor.methods next =
        answer at failed
      obtain ⟨outcome, last⟩ := answer
      cases failed
      obtain ⟨before, hook, after, declared, -, stopped⟩ := runHooks_stopped ran
      have listed : hook ∈ pending.descriptor.methods := by
        rw [declared]
        exact List.mem_append_right _ List.mem_cons_self
      rw [wired.methods] at listed
      obtain ⟨method, known, rfl⟩ := List.mem_map.mp listed
      exact .inr ⟨_, _, known, congrArg Prod.fst stopped⟩

/-- The call does not call a method that is listed more than once. -/
def Spares (wiring : Wiring) (plugin : String) (call : Call) : Prop :=
  ∀ method, 1 < wiring.hooks.count method → call ≠ .invoke plugin method

theorem serve_spares (wired : Wired wiring pending world) (now : World) :
    World.Grows (Spares wiring pending.record.name) now (serve providers pending now).2 := by
  apply (grows_lasting _).serve
  · intro field _ now
    apply (grows_lasting _).fillField
    · exact fun provider _ now => produce_grows _ fun method _ same => by cases same
    · exact fun value now => deliver_grows value fun method _ same => by cases same
  · intro hook declared now
    apply (grows_lasting _).runHook
    intro once next
    apply invoke_grows
    intro method often same
    rw [wired.methods] at declared
    obtain ⟨other, -, rfl⟩ := List.mem_map.mp declared
    have named : other = method := (Call.invoke.inj same).2
    have least := count_le_timesTagged wired other
    rw [once, named] at least
    exact absurd often (Nat.not_lt_of_le least)

/-- What the injection of a plugin never comes to: it never lacks a slot or a method, and it never
calls a method that is listed more than once. -/
structure Supplied (providers : List ProviderRecord) (wiring : Wiring) (pending : Pending)
    (world : World) : Prop where
  slots : ∀ plugin name unknown, (serve providers pending world).1 ≠
    .error (.causedConfiguration plugin ("cannot inject field '" ++ name ++ "'")
      (.injection (.unknownField unknown)))
  methods : ∀ plugin message,
    (serve providers pending world).1 ≠ .error (.configuration plugin message)
  repeated : World.Grows (Spares wiring pending.record.name) world
    (serve providers pending world).2

theorem Wired.supplied (wired : Wired wiring pending world)
    (keeps : KeepsShape providers pending.record) : Supplied providers wiring pending world := by
  obtain ⟨run, dispatch⟩ := wired.dispatch
  refine ⟨?_, ?_, serve_spares wired world⟩
  · intro plugin name unknown failed
    rcases wired.serve_error keeps failed with
      ⟨field, listed, now, shaped, failure⟩ | ⟨hook, now, -, failed⟩
    · exact failure.known keeps shaped listed plugin name unknown rfl
    · exact (runHook_error failed).not_slot plugin name _ rfl
  · intro plugin message failed
    rcases wired.serve_error keeps failed with
      ⟨field, -, now, -, failure⟩ | ⟨hook, now, listed, failed⟩
    · exact failure.not_configuration plugin message rfl
    · have found : pending.record.plugin.face.hook? hook.method = some (run hook.method) := by
        rw [dispatch]
        exact Wiring.hook?_of_mem listed run
      exact runHook_not_configuration found failed plugin message rfl

end Injection

end PluginHost
