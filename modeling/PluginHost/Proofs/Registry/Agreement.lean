import PluginHost.Proofs.Injection
import PluginHost.Proofs.Registry.Stages
import PluginHost.Registry.Basic

/-
This file proves that validation, the checks of other plugins and the injection mean one provider
by a name. So no field of a plugin that waits is left without a provider.
-/

namespace PluginHost

namespace Assembly.Assembled

variable {discovery : Discovery} {sections : Sections} {stages : Stages} {result : Result}
  (assembled : Assembled discovery sections stages result) (distinct : discovery.Distinct)

section
include assembled

theorem kept_of_record {record : Record (Live Provider)}
    (member : record ∈ result.assembly.providers) :
    ∃ candidate ∈ discovery.kept sections, ∃ plugin,
      BuiltFrom sections Kind.providers candidate plugin ∧ plugin.record = record := by
  rw [assembled.providers] at member
  obtain ⟨plugin, pluginIn, rfl⟩ := List.mem_map.mp member
  obtain ⟨candidate, kept, yielded⟩ := assembled.kept_of_provider pluginIn
  exact ⟨candidate, kept, plugin, yielded, rfl⟩

end

include assembled distinct

theorem record_of_kept {candidate : Candidate} (kept : candidate ∈ discovery.kept sections) :
    ∃ record ∈ result.assembly.providers, record.name = candidate.name := by
  obtain ⟨plugin, pluginIn, yielded⟩ :=
    BuiltFrom.exists_built assembled.offered kept (distinct.kept_offered kept)
  rw [assembled.providers]
  exact ⟨plugin.record, List.mem_map_of_mem pluginIn, yielded.name⟩

theorem named_iff {name : String} :
    (∃ record ∈ result.assembly.providers, record.name = name) ↔
      ∃ candidate ∈ discovery.kept sections, candidate.name = name := by
  constructor
  · rintro ⟨record, member, rfl⟩
    obtain ⟨candidate, kept, plugin, yielded, rfl⟩ := assembled.kept_of_record member
    exact ⟨candidate, kept, yielded.name.symm⟩
  · rintro ⟨candidate, kept, rfl⟩
    exact assembled.record_of_kept distinct kept

theorem names_nodup : (result.assembly.providers.map Record.name).Nodup := by
  rw [assembled.providers, BuiltFrom.names (BuiltFrom.forall₂ assembled.offered)]
  exact distinct.kept_names.sublist (List.filter_sublist.map _)

theorem provider?_of_mem {record : Record (Live Provider)}
    (member : record ∈ result.assembly.providers) :
    Injection.provider? result.assembly.providers record.name = some record := by
  obtain ⟨candidate, -, plugin, yielded, rfl⟩ := assembled.kept_of_record member
  exact Injection.provider?_of_mem (assembled.names_nodup distinct) member yielded.record_enabled

/-- The checks know a provider by its class and by the type that it has reported. -/
theorem reported {record : Record (Live Provider)}
    (member : record ∈ result.assembly.providers) :
    ∃ produced, record.plugin.face.producedType = .ok produced ∧
      result.assembly.valid.find? record.name = some ⟨record.implementation, produced⟩ := by
  obtain ⟨candidate, kept, plugin, yielded, rfl⟩ := assembled.kept_of_record member
  obtain ⟨-, provider, type, made, told, found⟩ := distinct.kept_spec kept
  obtain ⟨alsoMade, -⟩ := Kind.providers_face?_iff.mp yielded.face
  rw [made, Option.some.injEq, Instance.provider.injEq] at alsoMade
  refine ⟨type, by rw [← alsoMade, told], ?_⟩
  rw [assembled.valid, yielded.name, yielded.implementation]
  exact distinct.valid_find? kept found

/-- Validation knows a provider by its class, and no other by its name. -/
theorem validated {record : Record (Live Provider)}
    (member : record ∈ result.assembly.providers) :
    ∃ descriptor ∈ result.assembly.validation.valid, descriptor.name = record.name ∧
      descriptor.className = record.implementation ∧
        ∀ other ∈ result.assembly.validation.valid, other.name = record.name →
          other = descriptor := by
  obtain ⟨candidate, kept, plugin, yielded, rfl⟩ := assembled.kept_of_record member
  have valid := (distinct.mem_kept.mp kept).2
  obtain ⟨-, -, -, alone⟩ := Graph.mem_valid_spec valid
  rw [assembled.validation]
  refine ⟨candidate.descriptor, valid, yielded.name.symm, yielded.implementation.symm, ?_⟩
  intro other otherValid named
  obtain ⟨listed, enabled, -, -⟩ := Graph.mem_valid_spec otherValid
  exact alone other listed enabled (named.trans yielded.name)

/-- The provider of a checked field is there, and reports the type of the field. -/
theorem provider_of_served {field : FieldInjection}
    (served : Precondition.servesField (discovery.valid sections) field = true) :
    ∃ record ∈ result.assembly.providers,
      Injection.provider? result.assembly.providers field.provider = some record ∧
        record.name = field.provider ∧
          record.plugin.face.producedType = .ok field.declaredType := by
  rw [Precondition.servesField] at served
  cases found : (discovery.valid sections).find? field.provider with
  | none => simp [found] at served
  | some known =>
      simp only [found] at served
      have contained : (discovery.valid sections).contains field.provider = true :=
        Option.isSome_of_eq_some found
      obtain ⟨record, member, named⟩ :=
        (assembled.named_iff distinct).mpr (distinct.valid_contains_iff.mp contained)
      obtain ⟨produced, told, checked⟩ := assembled.reported distinct member
      rw [assembled.valid, named, found, Option.some.injEq] at checked
      rw [checked] at served
      have same : produced = field.declaredType := beq_iff_eq.mp served
      have held := assembled.provider?_of_mem distinct member
      rw [named] at held
      exact ⟨record, member, held, named, by rw [told, same]⟩

/-- Whatever waits in an assembly has only fields that passed the checks. -/
theorem served_of_waiting {pending : Pending}
    (waits : pending ∈ stages.pending (discovery.validation sections).loadOrder)
    {field : FieldInjection} (fieldIn : field ∈ pending.descriptor.fields) :
    Precondition.servesField (discovery.valid sections) field = true := by
  obtain ⟨category, candidate, collected, waitsFor⟩ := assembled.waitsFor distinct waits
  rw [waitsFor.descriptor] at fieldIn
  exact (distinct.collected_accepted collected).served field fieldIn

/-- A plugin that waits is listed under its category. -/
theorem listed_of_waiting {pending : Pending}
    (waits : pending ∈ stages.pending (discovery.validation sections).loadOrder) :
    ∃ candidate ∈ discovery pending.descriptor.category,
      candidate.descriptor = pending.descriptor := by
  obtain ⟨category, candidate, collected, waitsFor⟩ := assembled.waitsFor distinct waits
  obtain ⟨listed, rfl, -, -⟩ := distinct.collected_accepted collected
  rw [waitsFor.descriptor]
  rcases listed with own | listed
  · have wanting := waitsFor.wanting
    rw [Discovery.own_injections own] at wanting
    cases wanting
  · exact ⟨candidate, listed, rfl⟩

theorem not_noProvider {field : FieldInjection} {descriptor : Descriptor}
    {consumer : Record (Live Plugin)} {now : World} {error : PluginError}
    (served : Precondition.servesField (discovery.valid sections) field = true)
    (failed : Injection.FieldFailure result.assembly.providers descriptor consumer field now error)
    (plugin name provider : String) : error ≠ .noProvider plugin name provider := by
  obtain ⟨record, -, held, -, -⟩ := assembled.provider_of_served distinct served
  cases failed with
  | unresolved absent =>
      rw [held] at absent
      cases absent
  | unproduced _ _ => exact fun same => by cases same
  | undelivered _ _ _ => exact fun same => by cases same

theorem deviates {waiting : List Pending} {start now : World} {consumer : Pending}
    {field : FieldInjection} {failure : InjectionFailure} {plugin slot named : String}
    {expected found : TypeInfo}
    (served : Precondition.servesField (discovery.valid sections) field = true)
    (moment : Injection.Moment result.assembly.providers waiting start consumer field now)
    (belongs : failure.plugin = consumer.descriptor.name)
    (category : failure.category = consumer.descriptor.category)
    (failed : Injection.FieldFailure result.assembly.providers consumer.descriptor consumer.record
      field now failure.error)
    (refused : failure.error = .causedConfiguration plugin ("cannot inject field '" ++ slot ++ "'")
      (.injection (.typeMismatch named expected found))) :
    Injection.Deviates result.assembly.providers waiting start failure expected found := by
  obtain ⟨record, -, held, -, told⟩ := assembled.provider_of_served distinct served
  generalize failure.error = error at failed refused
  cases failed with
  | unresolved absent => cases refused
  | unproduced other failed =>
      rw [PluginError.causedConfiguration.injEq] at refused
      exact absurd refused.2.1.symm (Injection.provider_message_ne slot field.provider)
  | @undelivered provider value cause resolved produced delivered =>
      rw [PluginError.causedConfiguration.injEq, PluginError.injection.injEq] at refused
      rw [refused.2.2] at delivered
      obtain ⟨real, looked, slotType, valueType, differs⟩ :=
        Slots.inject_typeMismatch (Injection.deliver_error delivered)
      rw [held, Option.some.injEq] at resolved
      subst resolved
      refine ⟨consumer, field, now, record, value, real, field.declaredType, moment, belongs.symm,
        category.symm, held, told, produced, looked, valueType, slotType, ?_⟩
      by_contra stated
      rw [not_or, not_not, not_not, slotType, valueType] at stated
      exact differs (stated.1.trans stated.2.symm)

end Assembly.Assembled

namespace Registry

/-- After an assembly the names of the providers, the valid names and the names that validation
knows are the same, each for one provider of one class and with the type it has reported. So the
injection always finds a provider, and a slot refuses a value only when a type was misstated. -/
theorem assemble_agrees (discovery : Discovery) (sections : Sections) (world : World)
    (distinct : discovery.Distinct) :
    let assembly := (create discovery sections world).assemble.1
    (∀ name, (assembly.valid.contains name = true ↔
          ∃ record ∈ assembly.providers, record.name = name) ∧
        (assembly.validation.isValid name = true ↔
          ∃ record ∈ assembly.providers, record.name = name)) ∧
      (assembly.providers.map Record.name).Nodup ∧
      (∀ record ∈ assembly.providers,
        Injection.provider? assembly.providers record.name = some record ∧
        (∃ descriptor ∈ assembly.validation.valid, descriptor.name = record.name ∧
          descriptor.className = record.implementation ∧
          ∀ other ∈ assembly.validation.valid, other.name = record.name → other = descriptor) ∧
        ∃ produced, record.plugin.face.producedType = .ok produced ∧
          assembly.valid.find? record.name = some ⟨record.implementation, produced⟩) ∧
      ∃ waiting start,
        assembly.report = (Injection.serveAll assembly.providers waiting start).1 ∧
        (∀ pending ∈ waiting, ∃ candidate ∈ discovery pending.descriptor.category,
          candidate.descriptor = pending.descriptor) ∧
        ∀ failure ∈ assembly.report.failures,
          (∀ plugin field provider, failure.error ≠ .noProvider plugin field provider) ∧
          ∀ plugin slot field expected found,
            failure.error = .causedConfiguration plugin ("cannot inject field '" ++ slot ++ "'")
                (.injection (.typeMismatch field expected found)) →
              Injection.Deviates assembly.providers waiting start failure expected found := by
  intro assembly
  obtain ⟨stages, assembled⟩ := Assembly.run_assembled distinct sections world
  have valid : assembly.valid = discovery.valid sections := assembled.valid
  have validation : assembly.validation = discovery.validation sections := assembled.validation
  obtain ⟨start, report⟩ := assembled.report
  refine ⟨fun name => ⟨?_, ?_⟩, assembled.names_nodup distinct, fun record member => ⟨?_, ?_, ?_⟩,
    stages.pending (discovery.validation sections).loadOrder, start, report, ?_, ?_⟩
  · rw [valid]
    exact distinct.valid_contains_iff.trans (assembled.named_iff distinct).symm
  · rw [validation]
    exact distinct.isValid_iff.trans (assembled.named_iff distinct).symm
  · exact assembled.provider?_of_mem distinct member
  · exact assembled.validated distinct member
  · exact assembled.reported distinct member
  · intro pending waits
    exact assembled.listed_of_waiting distinct waits
  · intro failure reported
    rw [show assembly.report = _ from report] at reported
    obtain ⟨consumer, waits, belongs, category, origin⟩ := Injection.serveAll_origin reported
    rcases origin with ⟨field, now, moment, failed⟩ | ⟨hook, -, failed⟩
    · have served := assembled.served_of_waiting distinct waits moment.declared
      refine ⟨assembled.not_noProvider distinct served failed, ?_⟩
      intro plugin slot named expected found refused
      exact assembled.deviates distinct served moment belongs category failed refused
    · refine ⟨failed.not_noProvider, ?_⟩
      intro plugin slot named expected found refused
      exact absurd refused (failed.not_slot plugin slot _)

/-- A listing of an authorizer that is served by a provider of another type than it reports. -/
def miscounting : Discovery
  | .provider => [
      { descriptor := {
          category := .provider
          className := "Counter"
          registration := { name := "count" } }
        constructor := some (.done (.provider {
          producedType := .ok ⟨"Text"⟩
          produce := fun _ memory => ⟨.done ⟨⟨"Count"⟩, .count 1⟩, memory, []⟩ })) }]
  | .authorizer => [
      { descriptor := {
          category := .authorizer
          className := "Gate"
          registration := { name := "gate" }
          injections := [.field ⟨"limit", ⟨"Text"⟩, "count"⟩] }
        constructor := some (.done (.authorizer { slots := [("limit", ⟨"Text"⟩)] })) }]
  | _ => []

/-- The slot of the authorizer refuses the value, because the provider has misstated its type. -/
theorem assemble_agrees_of_miscounting :
    let assembly := (create miscounting [] {}).assemble.1
    miscounting.Distinct ∧ assembly.providers.map Record.name = ["config", "registry", "count"] ∧
      ∃ failure ∈ assembly.report.failures, ∃ waiting start,
        Injection.Deviates assembly.providers waiting start failure ⟨"Text"⟩ ⟨"Count"⟩ := by
  intro assembly
  have distinct : miscounting.Distinct := by
    unfold Discovery.Distinct
    decide
  have errors : assembly.report.failures.map InjectionFailure.error =
      [.causedConfiguration "gate" ("cannot inject field '" ++ "limit" ++ "'")
        (.injection (.typeMismatch "limit" ⟨"Text"⟩ ⟨"Count"⟩))] := by decide +kernel
  obtain ⟨failure, only, refused⟩ := List.map_eq_singleton_iff.mp errors
  have reported : failure ∈ assembly.report.failures := by
    rw [only]
    exact List.mem_singleton_self failure
  obtain ⟨-, -, -, waiting, start, -, -, traced⟩ := assemble_agrees miscounting [] {} distinct
  exact ⟨distinct, by decide +kernel, failure, reported, waiting, start,
    (traced failure reported).2 _ _ _ _ _ refused⟩

end Registry

end PluginHost
