import PluginHost.Injection
import Mathlib.Data.List.Nodup

/-
This file says how the injection of a plugin can fail, and where. A failure is traced to the field
or the hook that it ended at.
-/

namespace PluginHost

/-- Only a slot of the name refuses a value for its type. -/
theorem Slots.inject_typeMismatch {slots : Slots} {field named : String} {value : Provided}
    {expected found : TypeInfo}
    (refused : slots.inject field value = .error (.typeMismatch named expected found)) :
    ∃ slot, List.lookup field slots = some slot ∧ slot.type = expected ∧ value.type = found ∧
      found ≠ expected := by
  induction slots with
  | nil => cases refused
  | cons entry rest ih =>
      obtain ⟨name, slot⟩ := entry
      rw [inject] at refused
      by_cases here : name = field
      · rw [if_pos here] at refused
        rw [List.lookup_cons, here, beq_self_eq_true]
        refine ⟨slot, rfl, ?_⟩
        by_cases same : value.type = slot.type
        · cases held : slot.content with
          | none =>
              rw [Slot.fill_empty slot field value same held] at refused
              cases refused
          | some content =>
              rw [Slot.fill_set slot field value content same held] at refused
              cases refused
        · rw [Slot.fill_mismatch slot field value same] at refused
          cases refused
          exact ⟨rfl, rfl, same⟩
      · rw [if_neg here] at refused
        have differs : (field == name) = false := by
          rw [beq_eq_false_iff_ne]
          exact fun equal => here equal.symm
        rw [List.lookup_cons, differs]
        cases later : inject rest field value with
        | ok changed =>
            rw [later] at refused
            cases refused
        | error error =>
            rw [later] at refused
            cases refused
            exact ih later

namespace Injection

variable {providers : List ProviderRecord} {descriptor : Descriptor}
  {consumer : Record (Live Plugin)} {world : World} {error : PluginError}

theorem provider?_spec {providers : List ProviderRecord} {name : String} {record : ProviderRecord}
    (served : provider? providers name = some record) :
    record ∈ providers ∧ record.name = name := by
  have accepted := List.find?_some served
  rw [Bool.and_eq_true, beq_iff_eq] at accepted
  exact ⟨List.mem_of_find?_eq_some served, accepted.2⟩

/-- The only enabled provider of its name serves it. -/
theorem provider?_of_mem {providers : List ProviderRecord}
    (distinct : (providers.map Record.name).Nodup) {record : ProviderRecord}
    (member : record ∈ providers) (enabled : record.enabled = true) :
    provider? providers record.name = some record := by
  cases served : provider? providers record.name with
  | none =>
      have never := List.find?_eq_none.mp served record member
      simp [enabled] at never
  | some other =>
      obtain ⟨otherIn, named⟩ := provider?_spec served
      rw [List.inj_on_of_nodup_map distinct otherIn member named]

theorem deliver_error {field : String} {value : Provided} {cause : InjectionError}
    (refused : (deliver world consumer field value).1 = .error cause) :
    (world.memory consumer.plugin.id).slots.inject field value = .error cause := by
  have kept : (world.calledOn consumer.plugin.face (.inject consumer.name field)).memory
      consumer.plugin.id = world.memory consumer.plugin.id := rfl
  unfold deliver at refused
  dsimp only at refused
  rw [kept] at refused
  cases answer : (world.memory consumer.plugin.id).slots.inject field value with
  | ok slots =>
      rw [answer] at refused
      cases refused
  | error other =>
      rw [answer] at refused
      cases refused
      rfl

/-- The failures that filling a field in a world can end with. -/
inductive FieldFailure (providers : List ProviderRecord) (descriptor : Descriptor)
    (consumer : Record (Live Plugin)) (field : FieldInjection) (world : World) :
    PluginError → Prop where
  | unresolved (absent : provider? providers field.provider = none) :
      FieldFailure providers descriptor consumer field world
        (.noProvider descriptor.name field.field field.provider)
  | unproduced {provider : ProviderRecord} {cause : PluginError}
      (served : provider? providers field.provider = some provider)
      (failed : (produce world provider descriptor.name consumer).1 = .error cause) :
      FieldFailure providers descriptor consumer field world
        (.causedConfiguration descriptor.name
          ("provider '" ++ field.provider ++ "' failed to produce a value") cause)
  | undelivered {provider : ProviderRecord} {value : Provided} {cause : InjectionError}
      (served : provider? providers field.provider = some provider)
      (produced : (produce world provider descriptor.name consumer).1 = .ok value)
      (refused : (deliver (produce world provider descriptor.name consumer).2 consumer
        field.field value).1 = .error cause) :
      FieldFailure providers descriptor consumer field world
        (.causedConfiguration descriptor.name ("cannot inject field '" ++ field.field ++ "'")
          (.injection cause))

theorem fillField_error {field : FieldInjection}
    (failed : (fillField providers descriptor consumer field world).1 = .error error) :
    FieldFailure providers descriptor consumer field world error := by
  unfold fillField at failed
  cases served : provider? providers field.provider with
  | none =>
      rw [served] at failed
      cases failed
      exact .unresolved served
  | some provider =>
      rw [served] at failed
      dsimp only at failed
      generalize asked : produce world provider descriptor.name consumer = answer at failed
      obtain ⟨produced, after⟩ := answer
      cases produced with
      | error cause =>
          cases failed
          exact .unproduced served (by rw [asked])
      | ok value =>
          dsimp only at failed
          generalize delivered : deliver after consumer field.field value = reply at failed
          obtain ⟨outcome, last⟩ := reply
          cases outcome with
          | error cause =>
              cases failed
              exact .undelivered served (by rw [asked]) (by rw [asked, delivered])
          | ok done => cases failed

/-- The first failing field ends the filling, in the world that the fields before it left. -/
theorem fillFields_error {fields : List FieldInjection}
    (failed : (fillFields providers descriptor consumer fields world).1 = .error error) :
    ∃ before field after, fields = before ++ field :: after ∧
      FieldFailure providers descriptor consumer field
        (fillFields providers descriptor consumer before world).2 error := by
  induction fields generalizing world with
  | nil => cases failed
  | cons field rest ih =>
      rw [fillFields] at failed
      generalize filled : fillField providers descriptor consumer field world = answer at failed
      obtain ⟨outcome, next⟩ := answer
      cases outcome with
      | error cause =>
          cases failed
          refine ⟨[], field, rest, rfl, ?_⟩
          rw [fillFields]
          exact fillField_error (by rw [filled])
      | ok done =>
          obtain ⟨before, last, after, rfl, failure⟩ := ih failed
          refine ⟨field :: before, last, after, rfl, ?_⟩
          rw [fillFields, filled]
          exact failure

/-- The failures that a hook can end with. -/
inductive HookFailure (descriptor : Descriptor) (hook : MethodInjection) : PluginError → Prop where
  | missing : HookFailure descriptor hook (.configuration descriptor.name
      ("post-construct method not found, expected `fn " ++ hook.method ++
        "(&self) -> Result<(), PluginError>`"))
  | panicked (panic : Panic) :
      HookFailure descriptor hook (.panicked descriptor.name panic.message)
  | failed (cause : PluginError) : HookFailure descriptor hook
      (.causedConfiguration descriptor.name
        ("error executing post-construct method `" ++ hook.method ++ "`") cause)

/-- No other message begins like the one about the slot of a field. -/
theorem slot_message_ne (field : String) {message : String}
    (other : message.toList.head? ≠ some 'c') :
    "cannot inject field '" ++ field ++ "'" ≠ message := by
  rintro rfl
  apply other
  simp

theorem provider_message_ne (field provider : String) :
    "cannot inject field '" ++ field ++ "'" ≠
      "provider '" ++ provider ++ "' failed to produce a value" :=
  slot_message_ne field (by simp)

theorem hook_message_ne (field method : String) :
    "cannot inject field '" ++ field ++ "'" ≠
      "error executing post-construct method `" ++ method ++ "`" :=
  slot_message_ne field (by simp)

/-- A hook never fails for want of a provider. -/
theorem HookFailure.not_noProvider {descriptor : Descriptor} {hook : MethodInjection}
    {error : PluginError} (failed : HookFailure descriptor hook error)
    (plugin field provider : String) : error ≠ .noProvider plugin field provider := by
  cases failed with
  | missing => exact fun same => by cases same
  | panicked panic => exact fun same => by cases same
  | failed cause => exact fun same => by cases same

/-- A hook never fails with a message about a slot. -/
theorem HookFailure.not_slot {descriptor : Descriptor} {hook : MethodInjection}
    {error : PluginError} (failed : HookFailure descriptor hook error)
    (plugin field : String) (cause : PluginError) :
    error ≠ .causedConfiguration plugin ("cannot inject field '" ++ field ++ "'") cause := by
  cases failed with
  | missing => exact fun same => by cases same
  | panicked panic => exact fun same => by cases same
  | failed other =>
      intro same
      rw [PluginError.causedConfiguration.injEq] at same
      exact hook_message_ne field hook.method same.2.1.symm

theorem runHook_error {hook : MethodInjection}
    (failed : (runHook descriptor consumer hook world).1 = .error error) :
    HookFailure descriptor hook error := by
  unfold runHook at failed
  dsimp only at failed
  by_cases tagged : timesTagged descriptor hook ≠ 1
  · rw [if_pos tagged] at failed
    cases failed
  · rw [if_neg tagged] at failed
    generalize invoke world consumer hook.method = answer at failed
    obtain ⟨outcome, next⟩ := answer
    rcases outcome with _ | ⟨_ | cause | panic⟩
    · cases failed
      exact .missing
    · cases failed
    · cases failed
      exact .failed cause
    · cases failed
      exact .panicked panic

theorem runHooks_error {hooks : List MethodInjection}
    (failed : (runHooks descriptor consumer hooks world).1 = .error error) :
    ∃ hook ∈ hooks, HookFailure descriptor hook error := by
  induction hooks generalizing world with
  | nil => cases failed
  | cons hook rest ih =>
      rw [runHooks] at failed
      generalize ran : runHook descriptor consumer hook world = answer at failed
      obtain ⟨outcome, next⟩ := answer
      cases outcome with
      | error cause =>
          cases failed
          exact ⟨hook, List.mem_cons_self, runHook_error (by rw [ran])⟩
      | ok done =>
          obtain ⟨other, otherIn, failure⟩ := ih failed
          exact ⟨other, List.mem_cons_of_mem hook otherIn, failure⟩

/-- A plugin that is not served has failed at one of its fields or at one of its hooks. -/
theorem serve_error {pending : Pending}
    (failed : (serve providers pending world).1 = .error error) :
    (∃ before field after, pending.descriptor.fields = before ++ field :: after ∧
        FieldFailure providers pending.descriptor pending.record field
          (fillFields providers pending.descriptor pending.record before world).2 error) ∨
      ∃ hook ∈ pending.descriptor.methods, HookFailure pending.descriptor hook error := by
  unfold serve at failed
  generalize filled : fillFields providers pending.descriptor pending.record
    pending.descriptor.fields world = answer at failed
  obtain ⟨outcome, next⟩ := answer
  cases outcome with
  | error cause =>
      cases failed
      exact .inl (fillFields_error (by rw [filled]))
  | ok done => exact .inr (runHooks_error failed)

/-- Each failure in the report belongs to a plugin that waited, and arose in the world that the
plugins served before it left. -/
theorem serveAll_failure {pending : List Pending} {failure : InjectionFailure}
    (reported : failure ∈ (serveAll providers pending world).1.failures) :
    ∃ before plugin after, pending = before ++ plugin :: after ∧
      failure.plugin = plugin.descriptor.name ∧ failure.category = plugin.descriptor.category ∧
        (serve providers plugin (serveAll providers before world).2).1 = .error failure.error := by
  induction pending generalizing world with
  | nil => cases reported
  | cons plugin rest ih =>
      rw [serveAll] at reported
      generalize served : serve providers plugin world = answer at reported
      obtain ⟨outcome, next⟩ := answer
      cases outcome with
      | ok done =>
          obtain ⟨before, other, after, rfl, named, listed, failed⟩ := ih reported
          refine ⟨plugin :: before, other, after, rfl, named, listed, ?_⟩
          rw [serveAll, served]
          exact failed
      | error cause =>
          rcases List.mem_cons.mp reported with rfl | later
          · exact ⟨[], plugin, rest, rfl, rfl, rfl, by rw [serveAll, served]⟩
          · obtain ⟨before, other, after, rfl, named, listed, failed⟩ := ih later
            refine ⟨plugin :: before, other, after, rfl, named, listed, ?_⟩
            rw [serveAll, served]
            exact failed

/-- The world in which a field of a waiting plugin is about to be filled. -/
inductive Moment (providers : List ProviderRecord) (waiting : List Pending) (start : World) :
    Pending → FieldInjection → World → Prop where
  | intro {before after : List Pending} {plugin : Pending} {earlier later : List FieldInjection}
      {field : FieldInjection} (waits : waiting = before ++ plugin :: after)
      (declared : plugin.descriptor.fields = earlier ++ field :: later) :
      Moment providers waiting start plugin field
        (fillFields providers plugin.descriptor plugin.record earlier
          (serveAll providers before start).2).2

namespace Moment

variable {waiting : List Pending} {start : World} {plugin : Pending} {field : FieldInjection}

theorem waits (moment : Moment providers waiting start plugin field world) :
    plugin ∈ waiting := by
  obtain ⟨waits, -⟩ := moment
  rw [waits]
  exact List.mem_append_right _ List.mem_cons_self

theorem declared (moment : Moment providers waiting start plugin field world) :
    field ∈ plugin.descriptor.fields := by
  obtain ⟨-, declared⟩ := moment
  rw [declared]
  exact List.mem_append_right _ List.mem_cons_self

end Moment

/-- When a slot of the expected type was offered a value of the found type, one of the two types was
not as stated: the provider reported another type, or the field was declared with another one. -/
def Deviates (providers : List ProviderRecord) (waiting : List Pending) (start : World)
    (failure : InjectionFailure) (expected found : TypeInfo) : Prop :=
  ∃ consumer field now provider value slot produced,
    Moment providers waiting start consumer field now ∧
      consumer.descriptor.name = failure.plugin ∧
      consumer.descriptor.category = failure.category ∧
      provider? providers field.provider = some provider ∧
      provider.plugin.face.producedType = .ok produced ∧
      (produce now provider consumer.descriptor.name consumer.record).1 = .ok value ∧
      List.lookup field.field ((produce now provider consumer.descriptor.name
        consumer.record).2.memory consumer.record.plugin.id).slots = some slot ∧
      value.type = found ∧ slot.type = expected ∧
      (value.type ≠ produced ∨ slot.type ≠ field.declaredType)

/-- Each failure in the report arose at a field, at the moment of filling it, or at a hook. -/
theorem serveAll_origin {waiting : List Pending} {failure : InjectionFailure}
    (reported : failure ∈ (serveAll providers waiting world).1.failures) :
    ∃ plugin ∈ waiting, failure.plugin = plugin.descriptor.name ∧
      failure.category = plugin.descriptor.category ∧
        ((∃ field now, Moment providers waiting world plugin field now ∧
            FieldFailure providers plugin.descriptor plugin.record field now failure.error) ∨
          ∃ hook ∈ plugin.descriptor.methods,
            HookFailure plugin.descriptor hook failure.error) := by
  obtain ⟨before, plugin, after, waits, named, listed, failed⟩ := serveAll_failure reported
  have member : plugin ∈ waiting := by
    rw [waits]
    exact List.mem_append_right _ List.mem_cons_self
  refine ⟨plugin, member, named, listed, ?_⟩
  rcases serve_error failed with ⟨earlier, field, later, declared, failure⟩ | hooked
  · exact .inl ⟨field, _, .intro waits declared, failure⟩
  · exact .inr hooked

end Injection

end PluginHost
