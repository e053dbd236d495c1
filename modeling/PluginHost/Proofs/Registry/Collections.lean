import PluginHost.Proofs.Registry.Agreement

/-
This file proves which plugins an assembly collects, in which order, and that no failed injection
takes one of them away.
-/

namespace PluginHost

open Factory (offer? InPriorityOrder sortByPriority_inPriorityOrder)

variable {ι : Type}

/-- A plugin that is no provider has to be enabled, served and compatible, and its constructor has
to make an instance of its category. -/
structure Eligible (providers : List (Record (Live Provider))) (sections : Sections)
    (candidate : Candidate) : Prop where
  enabled : sections.enables candidate.descriptor = true
  served : ∀ field ∈ candidate.descriptor.fields, ∃ record ∈ providers,
    record.name = field.provider ∧ ∃ produced, record.plugin.face.producedType = .ok produced ∧
      produced.isAssignableTo field.declaredType = true
  compatible : isCompatible candidate.descriptor.apiVersion = true
  made : ∃ made, candidate.constructor = some (.done made) ∧
    made.category = candidate.descriptor.category

/-- The record holds what the constructor of the candidate has made. -/
structure MadeFrom (sections : Sections) (kind : Kind ι) (candidate : Candidate)
    (record : Record (Live ι)) : Prop where
  made : ∃ made, candidate.constructor = some (.done made) ∧
    kind.select made = some record.plugin.face
  record : record.map Live.face =
    Record.make candidate.descriptor sections record.plugin.face

/-- The kind selects exactly the instances of its category. -/
def Kind.Exact (kind : Kind ι) : Prop :=
  ∀ made, (kind.select made).isSome = (made.category == kind.category)

theorem Kind.all_exact :
    providers.Exact ∧ initializers.Exact ∧ authMechanisms.Exact ∧ authorizers.Exact ∧
      tokenManagers.Exact ∧ authenticators.Exact ∧ interceptors.Exact ∧ services.Exact := by
  refine ⟨?_, ?_, ?_, ?_, ?_, ?_, ?_, ?_⟩ <;>
    · intro made
      cases made <;> rfl

theorem BuiltFrom.madeFrom {sections : Sections} {kind : Kind ι} {candidate : Candidate}
    {plugin : Built ι} (yielded : BuiltFrom sections kind candidate plugin) :
    MadeFrom sections kind candidate plugin.record := by
  obtain ⟨made, constructed, chosen⟩ := Kind.face?_spec yielded.face
  exact ⟨⟨made, (Candidate.made?_eq_some_iff.mp constructed).2, chosen⟩, yielded.record⟩

/-- A candidate of another kind than providers yields a plugin when its constructor does. -/
theorem offer?_isSome_iff {sections : Sections} {kind : Kind ι} {candidate : Candidate}
    (exactly : kind.Exact) (other : kind.category ≠ .provider) :
    (offer? sections kind candidate).isSome = true ↔
      sections.enables candidate.descriptor = true ∧
        isCompatible candidate.descriptor.apiVersion = true ∧
          ∃ made, candidate.constructor = some (.done made) ∧ made.category = kind.category := by
  rw [Option.isSome_iff_exists]
  simp only [Factory.offer?_eq_some_iff, Kind.face?_of_ne other, Option.bind_eq_some_iff,
    Candidate.made?_eq_some_iff]
  constructor
  · rintro ⟨-, enabled, face, ⟨made, ⟨compatible, constructed⟩, chosen⟩, -⟩
    refine ⟨enabled, compatible, made, constructed, ?_⟩
    rw [← beq_iff_eq, ← exactly made, chosen]
    rfl
  · rintro ⟨enabled, compatible, made, constructed, category⟩
    have chosen : (kind.select made).isSome = true := by
      rw [exactly made, category]
      exact beq_self_eq_true _
    obtain ⟨face, selected⟩ := Option.isSome_iff_exists.mp chosen
    exact ⟨_, enabled, face, ⟨made, ⟨compatible, constructed⟩, selected⟩, rfl⟩

namespace Collected

variable {discovery : Discovery} {sections : Sections} {kind : Kind ι} {built : List (Built ι)}
  {records : List (Record (Live ι))}

theorem madeFrom (collected : Collected discovery sections kind built records) :
    List.Forall₂ (MadeFrom sections kind) (discovery.yielded sections kind) records := by
  rw [collected.records, List.forall₂_map_right_iff]
  exact (BuiltFrom.forall₂ collected.offered).imp fun _ _ yielded => yielded.madeFrom

end Collected

namespace Discovery.Distinct

variable {discovery : Discovery} {sections : Sections} (distinct : discovery.Distinct)
include distinct

/-- No listed provider is one of the host's own. -/
theorem not_own {candidate : Candidate} (listed : candidate ∈ discovery .provider) :
    candidate.descriptor ∉ Builtin.descriptors := by
  intro own
  rw [Discovery.Distinct, List.map_append, List.nodup_append] at distinct
  obtain ⟨-, -, apart⟩ := distinct
  refine apart _ (List.mem_map_of_mem own) _ (List.mem_map_of_mem ?_) rfl
  rw [Category.bootOrder, List.flatMap_cons, List.mem_append]
  exact .inl (List.mem_map_of_mem listed)

/-- A listed provider with a reserved name is not validated. -/
theorem mem_providers_of_valid {candidate : Candidate} (listed : candidate ∈ discovery .provider)
    (valid : candidate.descriptor ∈ (discovery.validation sections).valid) :
    candidate ∈ discovery.providers := by
  have validated := mem_validated valid
  rw [Discovery.providerDescriptors, List.mem_append] at validated
  obtain ⟨other, otherIn, same⟩ :=
    List.mem_map.mp (validated.resolve_left (distinct.not_own listed))
  refine mem_providers.mpr ⟨listed, ?_⟩
  rw [Candidate.name, ← same]
  exact (mem_providers.mp otherIn).2

/-- The host's own providers are kept when they are enabled, ahead of all others. -/
theorem kept_eq : discovery.kept sections =
    (Builtin.candidates.filter fun candidate => sections.enables candidate.descriptor) ++
      (Factory.sortByPriority (Factory.admissible Kind.providers .always
        discovery.providers)).filter fun candidate =>
          (discovery.validation sections).holdsClass candidate.className := by
  rw [kept, Discovery.tried, List.filter_append]
  congr 1
  apply List.filter_congr
  intro candidate own
  have tried : candidate ∈ discovery.tried := mem_tried.mpr (.inl own)
  rw [Bool.eq_iff_iff]
  constructor
  · intro held
    exact (distinct.kept_spec (List.mem_filter.mpr ⟨tried, held⟩)).1
  · intro enabled
    exact (List.mem_filter.mp (own_mem_kept own enabled)).2

open Classical in
/-- The other kept providers are the valid ones in the order in which they are built. -/
theorem kept_order
    (listed : ∀ candidate ∈ discovery .provider, candidate.descriptor.category = .provider) :
    InPriorityOrder
      ((discovery .provider).filter fun candidate =>
        decide (candidate.descriptor ∈ (discovery.validation sections).valid))
      ((Factory.sortByPriority (Factory.admissible Kind.providers .always
        discovery.providers)).filter fun candidate =>
          (discovery.validation sections).holdsClass candidate.className) := by
  have order := (sortByPriority_inPriorityOrder (Factory.admissible Kind.providers .always
    discovery.providers)).filter fun candidate =>
      (discovery.validation sections).holdsClass candidate.className
  rw [Factory.admissible, Discovery.providers, List.filter_filter, List.filter_filter] at order
  have same : ((discovery .provider).filter fun candidate =>
      (discovery.validation sections).holdsClass candidate.className &&
        (candidate.descriptor.category == Kind.providers.category && true) &&
          !Builtin.isReserved candidate.name) =
      (discovery .provider).filter fun candidate =>
        decide (candidate.descriptor ∈ (discovery.validation sections).valid) := by
    apply List.filter_congr
    intro candidate member
    have category := listed candidate member
    rw [Bool.eq_iff_iff, Bool.and_eq_true, Bool.and_eq_true, Bool.not_eq_true', decide_eq_true_eq]
    constructor
    · rintro ⟨⟨held, -⟩, free⟩
      have tried : candidate ∈ discovery.tried :=
        mem_tried.mpr (.inr ⟨mem_providers.mpr ⟨member, free⟩, category⟩)
      exact (distinct.mem_kept.mp (List.mem_filter.mpr ⟨tried, held⟩)).2
    · intro valid
      refine ⟨⟨List.any_eq_true.mpr ⟨candidate.descriptor, valid, beq_self_eq_true _⟩, ?_⟩,
        (mem_providers.mp (distinct.mem_providers_of_valid member valid)).2⟩
      rw [category]
      rfl
  rw [← same]
  exact order

end Discovery.Distinct

namespace Assembly.Assembled

variable {discovery : Discovery} {sections : Sections} {stages : Stages} {result : Result}
  (assembled : Assembled discovery sections stages result) (distinct : discovery.Distinct)
include assembled distinct

/-- The checks of a field look for a provider of the assembly that reports a fitting type. -/
theorem servesField_iff {field : FieldInjection} :
    Precondition.servesField (discovery.valid sections) field = true ↔
      ∃ record ∈ result.assembly.providers, record.name = field.provider ∧
        ∃ produced, record.plugin.face.producedType = .ok produced ∧
          produced.isAssignableTo field.declaredType = true := by
  constructor
  · intro served
    obtain ⟨record, member, -, named, told⟩ := assembled.provider_of_served distinct served
    exact ⟨record, member, named, field.declaredType, told, beq_self_eq_true _⟩
  · rintro ⟨record, member, named, produced, told, fits⟩
    obtain ⟨reported, alsoTold, found⟩ := assembled.reported distinct member
    rw [told, Except.ok.injEq] at alsoTold
    rw [assembled.valid, named, ← alsoTold] at found
    rw [Precondition.servesField, found]
    exact fits

open Classical in
/-- What a category yields are its eligible candidates in the order in which they are built. -/
theorem yielded_order {kind : Kind ι} (exactly : kind.Exact) (other : kind.category ≠ .provider)
    (listed : ∀ candidate ∈ discovery kind.category,
      candidate.descriptor.category = kind.category) :
    InPriorityOrder
      ((discovery kind.category).filter fun candidate =>
        decide (Eligible result.assembly.providers sections candidate))
      (discovery.yielded sections kind) := by
  have order := (sortByPriority_inPriorityOrder ((discovery kind.category).filter fun candidate =>
    candidate.descriptor.category == kind.category &&
      Precondition.holds (discovery.valid sections) sections candidate.descriptor)).filter
        fun candidate => (offer? sections kind candidate).isSome
  rw [List.filter_filter] at order
  have same : ((discovery kind.category).filter fun candidate =>
      (offer? sections kind candidate).isSome &&
        (candidate.descriptor.category == kind.category &&
          Precondition.holds (discovery.valid sections) sections candidate.descriptor)) =
      (discovery kind.category).filter fun candidate =>
        decide (Eligible result.assembly.providers sections candidate) := by
    apply List.filter_congr
    intro candidate member
    have category := listed candidate member
    rw [Bool.eq_iff_iff, Bool.and_eq_true, Bool.and_eq_true, decide_eq_true_eq, beq_iff_eq,
      offer?_isSome_iff exactly other]
    constructor
    · rintro ⟨⟨enabled, compatible, made⟩, -, holds⟩
      refine ⟨enabled, fun field fieldIn => ?_, compatible, by rwa [category]⟩
      exact (assembled.servesField_iff distinct).mp
        ((Precondition.holds_iff enabled).mp holds field fieldIn)
    · rintro ⟨enabled, served, compatible, made⟩
      rw [category] at made
      refine ⟨⟨enabled, compatible, made⟩, category, (Precondition.holds_iff enabled).mpr ?_⟩
      exact fun field fieldIn => (assembled.servesField_iff distinct).mpr (served field fieldIn)
  rwa [same] at order

open Classical in
/-- The collection of every category but the providers consists of its eligible candidates. -/
theorem collected_order
    (listed : ∀ category, ∀ candidate ∈ discovery category,
      candidate.descriptor.category = category) {category : Category}
    (other : category ≠ .provider) :
    InPriorityOrder
      ((discovery category).filter fun candidate =>
        decide (Eligible result.assembly.providers sections candidate))
      (discovery.collected sections category) := by
  obtain ⟨-, initializers, authMechanisms, authorizers, tokenManagers, authenticators, interceptors,
    services⟩ := Kind.all_exact
  cases category with
  | provider => exact absurd rfl other
  | initializer => exact assembled.yielded_order distinct initializers other (listed _)
  | authMechanism => exact assembled.yielded_order distinct authMechanisms other (listed _)
  | authorizer => exact assembled.yielded_order distinct authorizers other (listed _)
  | tokenManager => exact assembled.yielded_order distinct tokenManagers other (listed _)
  | authenticator => exact assembled.yielded_order distinct authenticators other (listed _)
  | interceptor => exact assembled.yielded_order distinct interceptors other (listed _)
  | service => exact assembled.yielded_order distinct services other (listed _)

theorem providers_madeFrom :
    List.Forall₂ (MadeFrom sections Kind.providers) (discovery.kept sections)
      result.assembly.providers := by
  have all : (discovery.kept sections).filter (fun candidate =>
      (offer? sections Kind.providers candidate).isSome) = discovery.kept sections := by
    rw [List.filter_eq_self]
    exact fun candidate kept => distinct.kept_offered kept
  have built := BuiltFrom.forall₂ assembled.offered
  rw [all] at built
  rw [assembled.providers, List.forall₂_map_right_iff]
  exact built.imp fun _ _ yielded => yielded.madeFrom

/-- A plugin whose injection has failed stays in the collection of its category. -/
theorem collected_of_failure {failure : InjectionFailure}
    (reported : failure ∈ result.assembly.report.failures) :
    ∃ candidate ∈ discovery.collected sections failure.category,
      candidate.name = failure.plugin := by
  obtain ⟨start, report⟩ := assembled.report
  rw [report] at reported
  obtain ⟨plugin, waits, named, category, -⟩ := Injection.serveAll_origin reported
  obtain ⟨held, candidate, collected, waitsFor⟩ := assembled.waitsFor distinct waits
  have same := (distinct.collected_accepted collected).category
  rw [← waitsFor.descriptor, ← category] at same
  rw [← same] at collected
  refine ⟨candidate, collected, ?_⟩
  rw [named, waitsFor.descriptor]
  rfl

end Assembly.Assembled

namespace Registry

open Classical in
/-- An assembly determines its collections. The providers are the host's own where they are
enabled, then the valid ones; every other category holds its eligible candidates; both stand in
ascending priority and in the order of discovery among equals. What fails to be injected stays. -/
theorem assemble_collects (discovery : Discovery) (sections : Sections) (world : World)
    (distinct : discovery.Distinct)
    (listed : ∀ category, ∀ candidate ∈ discovery category,
      candidate.descriptor.category = category) :
    let assembly := (create discovery sections world).assemble.1
    let registry := (create discovery sections world).assemble.2
    assembly.validation = discovery.validation sections ∧
      ∃ kept : Category → List Candidate,
        (∃ valid, kept .provider = (Builtin.candidates.filter fun candidate =>
            sections.enables candidate.descriptor) ++ valid ∧
          InPriorityOrder ((discovery .provider).filter fun candidate =>
            decide (candidate.descriptor ∈ assembly.validation.valid)) valid) ∧
        (∀ category, category ≠ .provider → InPriorityOrder
          ((discovery category).filter fun candidate =>
            decide (Eligible assembly.providers sections candidate)) (kept category)) ∧
        List.Forall₂ (MadeFrom sections Kind.providers) (kept .provider) assembly.providers ∧
        List.Forall₂ (MadeFrom sections Kind.initializers) (kept .initializer)
          assembly.initializers ∧
        List.Forall₂ (MadeFrom sections Kind.authMechanisms) (kept .authMechanism)
          assembly.authMechanisms ∧
        List.Forall₂ (MadeFrom sections Kind.authorizers) (kept .authorizer)
          assembly.authorizers ∧
        (∃ tokenManagers, List.Forall₂ (MadeFrom sections Kind.tokenManagers)
          (kept .tokenManager) tokenManagers ∧ assembly.tokenManager = tokenManagers.head?) ∧
        List.Forall₂ (MadeFrom sections Kind.authenticators) (kept .authenticator)
          assembly.authenticators ∧
        List.Forall₂ (MadeFrom sections Kind.interceptors) (kept .interceptor)
          registry.interceptors ∧
        List.Forall₂ (MadeFrom sections Kind.services) (kept .service) registry.services ∧
        ∀ failure ∈ assembly.report.failures, ∃ candidate ∈ kept failure.category,
          candidate.name = failure.plugin := by
  intro assembly registry
  obtain ⟨stages, assembled⟩ := Assembly.run_assembled distinct sections world
  obtain ⟨tokenManagers, fourth, first⟩ := assembled.tokenManagers
  have validation : assembly.validation = discovery.validation sections := assembled.validation
  refine ⟨validation, discovery.collected sections, ⟨_, distinct.kept_eq, ?_⟩, ?_,
    assembled.providers_madeFrom distinct, assembled.initializers.madeFrom,
    assembled.authMechanisms.madeFrom, assembled.authorizers.madeFrom,
    ⟨tokenManagers, fourth.madeFrom, first⟩, assembled.authenticators.madeFrom,
    assembled.interceptors.madeFrom, assembled.services.madeFrom, ?_⟩
  · rw [validation]
    exact distinct.kept_order (listed .provider)
  · intro category other
    exact assembled.collected_order distinct listed other
  · intro failure reported
    exact assembled.collected_of_failure distinct reported

/-- A candidate for a provider of counts. -/
def counter (className name : String) : Candidate where
  descriptor := {
    category := .provider
    className := className
    registration := { name := name } }
  constructor := some (.done (.provider {
    producedType := .ok ⟨"Count"⟩
    produce := fun _ memory => ⟨.done ⟨⟨"Count"⟩, .count 1⟩, memory, []⟩ }))

/-- A candidate for an authorizer that wants a count, and has no slot for it. -/
def authorizer (name provider : String) : Candidate where
  descriptor := {
    category := .authorizer
    className := name
    registration := { name := name }
    injections := [.field ⟨"limit", ⟨"Count"⟩, provider⟩] }
  constructor := some (.done (.authorizer {}))

/-- A listing with a reserved name, and with an authorizer that nothing serves. -/
def contested : Discovery
  | .provider => [counter "Counter" "count", counter "Shadow" "config"]
  | .authorizer => [authorizer "gate" "count", authorizer "unserved" "time"]
  | _ => []

/-- The authorizer that cannot be injected stays, and the one that is not served is not made. -/
theorem assemble_collects_of_contested :
    let assembly := (create contested [] {}).assemble.1
    contested.Distinct ∧
      (∀ category, ∀ candidate ∈ contested category,
        candidate.descriptor.category = category) ∧
      assembly.providers.map Record.name = ["config", "registry", "count"] ∧
      assembly.authorizers.map Record.name = ["gate"] ∧
      assembly.report.failures.map InjectionFailure.plugin = ["gate"] ∧
      ∃ kept : Category → List Candidate,
        List.Forall₂ (MadeFrom [] Kind.authorizers) (kept .authorizer) assembly.authorizers ∧
        ∀ failure ∈ assembly.report.failures, ∃ candidate ∈ kept failure.category,
          candidate.name = failure.plugin := by
  intro assembly
  have distinct : contested.Distinct := by
    unfold Discovery.Distinct
    decide
  have listed : ∀ category, ∀ candidate ∈ contested category,
      candidate.descriptor.category = category := by
    intro category
    cases category <;> decide
  obtain ⟨-, kept, -, -, -, -, -, authorizers, -, -, -, -, failures⟩ :=
    assemble_collects contested [] {} distinct listed
  exact ⟨distinct, listed, by decide +kernel, by decide +kernel, by decide +kernel, kept,
    authorizers, failures⟩

end Registry

end PluginHost
