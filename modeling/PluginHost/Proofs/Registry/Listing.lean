import PluginHost.Discovery
import PluginHost.Proofs.Factory.Priority
import PluginHost.Proofs.Factory.Waiting
import PluginHost.Proofs.Precondition
import PluginHost.Registry.Builtin

/-
This file says which of the listed providers are kept. Listing, sections and the providers
themselves decide it, whatever else happens while they are built.
-/

namespace PluginHost

open Factory (offer? typing? sortByPriority admissible sortByPriority_inPriorityOrder)

namespace Builtin

/-- The providers of the host as candidates for themselves. -/
def candidates : List Candidate :=
  [{ descriptor := config, constructor := some (.done (.provider configProvider)) },
    { descriptor := registry, constructor := some (.done (.provider registryProvider)) }]

end Builtin

namespace Discovery

/-- The classes of everything that is listed and of the providers of the host are distinct. -/
def Distinct (discovery : Discovery) : Prop :=
  ((Builtin.descriptors ++ Category.bootOrder.flatMap fun category =>
    (discovery category).map Candidate.descriptor).map Descriptor.className).Nodup

/-- The listed providers whose names are not reserved. -/
def providers (discovery : Discovery) : List Candidate :=
  (discovery .provider).filter fun candidate => !Builtin.isReserved candidate.name

/-- The providers in the order in which they are built. -/
def tried (discovery : Discovery) : List Candidate :=
  Builtin.candidates ++ sortByPriority (admissible Kind.providers .always discovery.providers)

variable (discovery : Discovery) (sections : Sections)

/-- The types that the providers report when they are built. -/
def types : TypeTable :=
  Table.ofEntries (discovery.tried.filterMap (typing? sections Kind.providers))

def providerDescriptors : List Descriptor :=
  Builtin.descriptors ++ discovery.providers.map Candidate.descriptor

def graph : Graph :=
  Graph.ofProviders discovery.providerDescriptors sections (discovery.types sections)

def validation : Validation := (discovery.graph sections).validate

/-- The providers that the checks of other plugins may rely on. -/
def valid : ValidProviders :=
  .ofValidation (discovery.validation sections) (discovery.types sections)

/-- The providers that are kept, in the order in which they are built. -/
def kept : List Candidate :=
  discovery.tried.filter fun candidate =>
    (discovery.validation sections).holdsClass candidate.className

variable {discovery sections}

theorem mem_providers {candidate : Candidate} :
    candidate ∈ discovery.providers ↔
      candidate ∈ discovery .provider ∧ Builtin.isReserved candidate.name = false := by
  rw [providers, List.mem_filter, Bool.not_eq_true']

theorem mem_tried {candidate : Candidate} :
    candidate ∈ discovery.tried ↔
      candidate ∈ Builtin.candidates ∨
        candidate ∈ discovery.providers ∧ candidate.descriptor.category = .provider := by
  rw [tried, List.mem_append, (sortByPriority_inPriorityOrder _).mem_iff, admissible,
    List.mem_filter, Bool.and_eq_true, beq_iff_eq]
  exact Iff.or Iff.rfl (and_congr_right fun _ => and_iff_left rfl)

/-- Whatever is built as a provider is validated. -/
theorem descriptor_mem_of_mem_tried {candidate : Candidate} (built : candidate ∈ discovery.tried) :
    candidate.descriptor ∈ discovery.providerDescriptors := by
  rw [providerDescriptors, List.mem_append]
  rcases mem_tried.mp built with own | ⟨listed, -⟩
  · exact .inl (List.mem_map_of_mem (f := Candidate.descriptor) own)
  · exact .inr (List.mem_map_of_mem listed)

namespace Distinct

variable (distinct : discovery.Distinct)
include distinct

theorem category (category : Category) :
    ((discovery category).map Candidate.className).Nodup := by
  have known : category ∈ Category.bootOrder := by cases category <;> decide
  have within := List.sublist_flatten_of_mem
    (List.mem_map_of_mem (f := fun category => (discovery category).map Candidate.descriptor) known)
  have later := within.trans (List.sublist_append_right Builtin.descriptors _)
  have once := List.Nodup.sublist (later.map Descriptor.className) distinct
  rwa [List.map_map] at once

theorem providerDescriptors : (discovery.providerDescriptors.map Descriptor.className).Nodup := by
  have first : (discovery.providers.map Candidate.descriptor).Sublist
      (Category.bootOrder.flatMap fun category =>
        (discovery category).map Candidate.descriptor) := by
    rw [Category.bootOrder, List.flatMap_cons]
    exact (List.filter_sublist.map _).trans (List.sublist_append_left _ _)
  exact List.Nodup.sublist ((List.Sublist.append_left first _).map _) distinct

theorem tried : (discovery.tried.map Candidate.className).Nodup := by
  have perm : (discovery.tried.map Candidate.className).Perm
      ((Builtin.candidates ++ admissible Kind.providers .always discovery.providers).map
        Candidate.className) :=
    ((sortByPriority_inPriorityOrder _).perm.append_left _).map _
  rw [perm.nodup_iff]
  have within : ((Builtin.candidates ++ admissible Kind.providers .always discovery.providers).map
      Candidate.className).Sublist (discovery.providerDescriptors.map Descriptor.className) := by
    rw [Discovery.providerDescriptors, List.map_append, List.map_append, List.map_map]
    exact List.Sublist.append_left (List.filter_sublist.map _) _
  exact distinct.providerDescriptors.sublist within

/-- A validated provider is told from the others by its class. -/
theorem eq_of_className {first second : Descriptor}
    (firstIn : first ∈ discovery.providerDescriptors)
    (secondIn : second ∈ discovery.providerDescriptors)
    (same : first.className = second.className) : first = second :=
  List.inj_on_of_nodup_map distinct.providerDescriptors firstIn secondIn same

end Distinct

theorem mem_validated {descriptor : Descriptor}
    (valid : descriptor ∈ (discovery.validation sections).valid) :
    descriptor ∈ discovery.providerDescriptors := (Graph.mem_valid_spec valid).1

/-- A type in the table was reported by an enabled provider of the name. -/
theorem reported_of_find? {name : String} {type : TypeInfo}
    (typed : (discovery.types sections).find? name = some type) :
    ∃ candidate ∈ discovery.tried, sections.enables candidate.descriptor = true ∧
      candidate.name = name ∧ Kind.providers.reportedType? candidate = some type := by
  have listed := Table.mem_of_find?_ofEntries typed
  rw [List.mem_filterMap] at listed
  obtain ⟨candidate, tried, entry⟩ := listed
  obtain ⟨enabled, reported, said, equal⟩ := Factory.typing?_eq_some_iff.mp entry
  obtain ⟨rfl, rfl⟩ := Prod.mk.inj equal
  exact ⟨candidate, tried, enabled, rfl, said⟩

/-- Every valid provider was built, and is kept. -/
theorem kept_of_valid {descriptor : Descriptor}
    (valid : descriptor ∈ (discovery.validation sections).valid) :
    ∃ candidate ∈ discovery.kept sections, candidate.descriptor = descriptor := by
  obtain ⟨-, -, typed, alone⟩ := Graph.mem_valid_spec valid
  obtain ⟨type, found⟩ := Option.isSome_iff_exists.mp typed
  obtain ⟨candidate, tried, enabled, named, -⟩ := reported_of_find? found
  have same := alone candidate.descriptor (descriptor_mem_of_mem_tried tried) enabled named
  refine ⟨candidate, List.mem_filter.mpr ⟨tried, ?_⟩, same⟩
  exact List.any_eq_true.mpr ⟨descriptor, valid, by rw [← same]; exact beq_self_eq_true _⟩

namespace Distinct

variable (distinct : discovery.Distinct)
include distinct

theorem mem_kept {candidate : Candidate} :
    candidate ∈ discovery.kept sections ↔
      candidate ∈ discovery.tried ∧
        candidate.descriptor ∈ (discovery.validation sections).valid := by
  rw [kept, List.mem_filter]
  refine and_congr_right fun tried => ?_
  rw [Validation.holdsClass, List.any_eq_true]
  constructor
  · rintro ⟨descriptor, valid, same⟩
    rwa [← distinct.eq_of_className (mem_validated valid) (descriptor_mem_of_mem_tried tried)
      (beq_iff_eq.mp same)]
  · intro valid
    exact ⟨candidate.descriptor, valid, beq_self_eq_true _⟩

theorem eq_of_descriptor {first second : Candidate} (firstIn : first ∈ discovery.tried)
    (secondIn : second ∈ discovery.tried) (same : first.descriptor = second.descriptor) :
    first = second :=
  List.inj_on_of_nodup_map distinct.tried firstIn secondIn (congrArg Descriptor.className same)

/-- A kept provider is the enabled one that has reported the type under its name. -/
theorem kept_spec {candidate : Candidate} (kept : candidate ∈ discovery.kept sections) :
    sections.enables candidate.descriptor = true ∧ ∃ provider type,
      candidate.made? = some (.provider provider) ∧ provider.producedType = .ok type ∧
        (discovery.types sections).find? candidate.name = some type := by
  obtain ⟨tried, valid⟩ := distinct.mem_kept.mp kept
  obtain ⟨-, enabled, typed, alone⟩ := Graph.mem_valid_spec valid
  obtain ⟨type, found⟩ := Option.isSome_iff_exists.mp typed
  obtain ⟨other, otherTried, otherEnabled, named, said⟩ := reported_of_find? found
  have same := alone other.descriptor (descriptor_mem_of_mem_tried otherTried) otherEnabled named
  rw [distinct.eq_of_descriptor otherTried tried same] at said
  obtain ⟨provider, made, told⟩ := Kind.providers_reportedType?_iff.mp said
  exact ⟨enabled, provider, type, made, told, found⟩

/-- Every kept provider yields a plugin. -/
theorem kept_offered {candidate : Candidate} (kept : candidate ∈ discovery.kept sections) :
    (offer? sections Kind.providers candidate).isSome = true := by
  obtain ⟨enabled, provider, type, made, told, -⟩ := distinct.kept_spec kept
  have face := Kind.providers_face?_iff.mpr ⟨made, type, told⟩
  exact Option.isSome_of_eq_some (Factory.offer?_eq_some_iff.mpr ⟨enabled, provider, face, rfl⟩)

theorem kept_eq_of_name {first second : Candidate} (firstIn : first ∈ discovery.kept sections)
    (secondIn : second ∈ discovery.kept sections) (same : first.name = second.name) :
    first = second := by
  obtain ⟨firstTried, firstValid⟩ := distinct.mem_kept.mp firstIn
  obtain ⟨secondTried, secondValid⟩ := distinct.mem_kept.mp secondIn
  obtain ⟨-, -, -, alone⟩ := Graph.mem_valid_spec secondValid
  obtain ⟨listed, enabled, -, -⟩ := Graph.mem_valid_spec firstValid
  exact distinct.eq_of_descriptor firstTried secondTried (alone _ listed enabled same)

/-- The names of the kept providers are distinct. -/
theorem kept_names : ((discovery.kept sections).map Candidate.name).Nodup := by
  apply List.Nodup.map_on
  · intro first firstIn second secondIn
    exact distinct.kept_eq_of_name firstIn secondIn
  · exact (List.Nodup.of_map _ distinct.tried).sublist List.filter_sublist

/-- The valid names are the names of the kept providers. -/
theorem isValid_iff {name : String} :
    (discovery.validation sections).isValid name = true ↔
      ∃ candidate ∈ discovery.kept sections, candidate.name = name := by
  rw [Validation.isValid, List.any_eq_true]
  constructor
  · rintro ⟨descriptor, valid, named⟩
    obtain ⟨candidate, kept, rfl⟩ := kept_of_valid valid
    exact ⟨candidate, kept, beq_iff_eq.mp named⟩
  · rintro ⟨candidate, kept, rfl⟩
    exact ⟨candidate.descriptor, (distinct.mem_kept.mp kept).2, beq_self_eq_true _⟩

theorem valid_contains_iff {name : String} :
    (discovery.valid sections).contains name = true ↔
      ∃ candidate ∈ discovery.kept sections, candidate.name = name := by
  rw [← distinct.isValid_iff]
  refine ValidProviders.find?_isSome.trans (and_iff_left_of_imp fun valid => ?_)
  obtain ⟨candidate, kept, rfl⟩ := distinct.isValid_iff.mp valid
  obtain ⟨-, -, type, -, -, found⟩ := distinct.kept_spec kept
  exact Option.isSome_of_eq_some found

/-- The checks of other plugins find a kept provider with the type it has reported. -/
theorem valid_find? {candidate : Candidate} (kept : candidate ∈ discovery.kept sections)
    {type : TypeInfo} (typed : (discovery.types sections).find? candidate.name = some type) :
    (discovery.valid sections).find? candidate.name = some ⟨candidate.className, type⟩ := by
  have known := distinct.valid_contains_iff.mpr ⟨candidate, kept, rfl⟩
  obtain ⟨provider, found⟩ := Option.isSome_iff_exists.mp known
  obtain ⟨descriptor, valid, named, same, alsoTyped⟩ := ValidProviders.of_find? found
  obtain ⟨other, otherKept, rfl⟩ := kept_of_valid valid
  rw [distinct.kept_eq_of_name otherKept kept named] at same
  change candidate.className = provider.className at same
  rw [typed, Option.some.injEq] at alsoTyped
  rw [found, alsoTyped, same]

end Distinct

theorem own_reserved {candidate : Candidate} (own : candidate ∈ Builtin.candidates) :
    Builtin.isReserved candidate.name = true := by
  rw [Builtin.candidates, List.mem_cons, List.mem_singleton] at own
  rcases own with rfl | rfl
  · rfl
  · rfl

theorem own_typed {candidate : Candidate} (own : candidate ∈ Builtin.candidates) :
    ∃ type, Kind.providers.reportedType? candidate = some type := by
  rw [Builtin.candidates, List.mem_cons, List.mem_singleton] at own
  rcases own with rfl | rfl
  · exact ⟨.configSection, rfl⟩
  · exact ⟨.registryHandle, rfl⟩

theorem own_injections {candidate : Candidate} (own : candidate ∈ Builtin.candidates) :
    candidate.descriptor.injections = [] := by
  rw [Builtin.candidates, List.mem_cons, List.mem_singleton] at own
  rcases own with rfl | rfl
  · rfl
  · rfl

/-- No other validated provider has the name of one of the host's own. -/
theorem own_only {candidate : Candidate} (own : candidate ∈ Builtin.candidates)
    (enabled : sections.enables candidate.descriptor = true) :
    (discovery.providerDescriptors.filter fun other =>
      other.name == candidate.descriptor.name && sections.enables other) =
        [candidate.descriptor] := by
  have others : ((discovery.providers.map Candidate.descriptor).filter fun other =>
      other.name == candidate.descriptor.name && sections.enables other) = [] := by
    rw [List.filter_eq_nil_iff]
    intro other listed
    obtain ⟨found, foundIn, rfl⟩ := List.mem_map.mp listed
    rw [Bool.and_eq_true, beq_iff_eq]
    rintro ⟨named, -⟩
    have free := (mem_providers.mp foundIn).2
    rw [Candidate.name, named] at free
    exact absurd (own_reserved own) (by rw [Candidate.name, free]; exact Bool.false_ne_true)
  rw [providerDescriptors, List.filter_append, others, List.append_nil]
  rw [Builtin.candidates, List.mem_cons, List.mem_singleton] at own
  rcases own with rfl | rfl
  · have differs : (Builtin.registry.name == Builtin.config.name) = false := by decide
    simp [Builtin.descriptors, enabled, differs]
  · have differs : (Builtin.config.name == Builtin.registry.name) = false := by decide
    simp [Builtin.descriptors, enabled, differs]

/-- The host's own provider is kept when it is enabled. -/
theorem own_mem_kept {candidate : Candidate} (own : candidate ∈ Builtin.candidates)
    (enabled : sections.enables candidate.descriptor = true) :
    candidate ∈ discovery.kept sections := by
  have tried : candidate ∈ discovery.tried := mem_tried.mpr (.inl own)
  obtain ⟨type, said⟩ := own_typed own
  have typed : (discovery.types sections).contains candidate.name = true := by
    apply Table.find?_ofEntries_isSome.mpr
    apply List.mem_map_of_mem (f := Prod.fst) (a := (candidate.name, type))
    rw [List.mem_filterMap]
    exact ⟨candidate, tried, Factory.typing?_eq_some_iff.mpr ⟨enabled, type, said, rfl⟩⟩
  have valid : candidate.descriptor ∈ (discovery.validation sections).valid :=
    Graph.mem_valid_of_fields_nil (own_only own enabled) typed
      (by rw [Descriptor.fields, own_injections own, List.filterMap_nil])
  exact List.mem_filter.mpr ⟨tried,
    List.any_eq_true.mpr ⟨candidate.descriptor, valid, beq_self_eq_true _⟩⟩

end Discovery

end PluginHost
