import PluginHost.Proofs.Graph.Findings
import PluginHost.Proofs.Registry.Absence
import PluginHost.Proofs.Registry.Sight

/-
This file proves that a plugin that is disabled or cannot be built takes nothing from the others. A
listing under a wrong category does no harm either, unless it meets a provider of its name.
-/

namespace PluginHost

open Factory (offer)

/-- Two registries show the same, and exclude the same providers in the same order. -/
structure Registry.Indifferent (name : String) (whole rest : Registry) : Prop where
  sight : rest.sight = whole.sight
  findings : List.Forall₂ (Finding.Alike name) whole.assemble.1.validation.findings
    rest.assemble.1.validation.findings

namespace Discovery

variable {discovery : Discovery} {sections : Sections} {category : Category} {candidate : Candidate}

/-- The categories build the same whether the idle candidate is listed or not. -/
theorem Idle.alike {world otherWorld between otherBetween : World}
    {stages others : Assembly.Stages} {result otherResult : Assembly.Result}
    (idle : Idle discovery sections category candidate)
    (whole : Assembly.Finished discovery sections world stages result between)
    (rest : Assembly.Finished (discovery.without category candidate.className) sections otherWorld
      others otherResult otherBetween) : others.Alike stages := by
  have same {ι : Type} {kind : Kind ι} (exactly : kind.Exact) {built counterparts : List (Built ι)}
      {records otherRecords : List (Record (Live ι))}
      (collected : Collected discovery sections kind built records)
      (alsoCollected : Collected (discovery.without category candidate.className) sections kind
        counterparts otherRecords) : counterparts.map offer = built.map offer := by
    rw [collected.offered, alsoCollected.offered, idle.admitted_offers whole.distinct exactly]
  obtain ⟨-, initializers, authMechanisms, authorizers, tokenManagers, authenticators, interceptors,
    services⟩ := Kind.all_exact
  obtain ⟨managers, fourth, -⟩ := whole.assembled.tokenManagers
  obtain ⟨otherManagers, otherFourth, -⟩ := rest.assembled.tokenManagers
  exact {
    providers := by
      rw [whole.assembled.offered, rest.assembled.offered, idle.kept_offers whole.distinct]
    initializers := same initializers whole.assembled.initializers rest.assembled.initializers
    authMechanisms :=
      same authMechanisms whole.assembled.authMechanisms rest.assembled.authMechanisms
    authorizers := same authorizers whole.assembled.authorizers rest.assembled.authorizers
    tokenManagers := same tokenManagers fourth otherFourth
    authenticators :=
      same authenticators whole.assembled.authenticators rest.assembled.authenticators
    interceptors := same interceptors whole.assembled.interceptors rest.assembled.interceptors
    services := same services whole.assembled.services rest.assembled.services }

/-- It makes no difference whether the idle candidate is listed. -/
theorem Idle.indifferent (idle : Idle discovery sections category candidate)
    (distinct : discovery.Distinct) (world : World) :
    Registry.Indifferent candidate.name (.create discovery sections world)
      (.create (discovery.without category candidate.className) sections world) := by
  obtain ⟨stages, between, whole⟩ := Assembly.run_finished distinct sections world
  obtain ⟨others, otherBetween, rest⟩ :=
    Assembly.run_finished (distinct.without category candidate.className) sections world
  obtain ⟨valid, loadOrder, findings⟩ := idle.validation_alike distinct
  constructor
  · exact rest.sight_eq whole (idle.alike whole rest) valid loadOrder (idle.valid_eq distinct)
  · rw [← whole.assembled.validation, ← rest.assembled.validation] at findings
    exact findings

/-- A name that is not reserved has a type when an enabled provider reports one under it. -/
theorem types_contains_iff {name : String} (free : Builtin.isReserved name = false) :
    (discovery.types sections).contains name = true ↔
      ∃ other ∈ discovery .provider, other.descriptor.category = .provider ∧
        sections.enables other.descriptor = true ∧ other.name = name ∧
          ∃ type, Kind.providers.reportedType? other = some type := by
  constructor
  · intro typed
    obtain ⟨type, found⟩ := Option.isSome_iff_exists.mp typed
    obtain ⟨other, tried, enabled, named, said⟩ := reported_of_find? found
    rcases mem_tried.mp tried with own | ⟨listed, provides⟩
    · have reserved := own_reserved own
      rw [named, free] at reserved
      cases reserved
    · exact ⟨other, (mem_providers.mp listed).1, provides, enabled, named, type, said⟩
  · rintro ⟨other, listed, provides, enabled, rfl, type, said⟩
    have tried : other ∈ discovery.tried :=
      mem_tried.mpr (.inr ⟨mem_providers.mpr ⟨listed, free⟩, provides⟩)
    apply Table.find?_ofEntries_isSome.mpr
    apply List.mem_map_of_mem (f := Prod.fst) (a := (other.name, type))
    rw [List.mem_filterMap]
    exact ⟨other, tried, Factory.typing?_eq_some_iff.mpr ⟨enabled, type, said, rfl⟩⟩

/-- A listing that the host validates although an enabled provider of its name has a type. -/
structure Contests (discovery : Discovery) (sections : Sections) (category : Category)
    (candidate : Candidate) : Prop where
  provides : category = .provider
  free : Builtin.isReserved candidate.name = false
  enabled : sections.enables candidate.descriptor = true
  rival : ∃ other ∈ discovery .provider, other.descriptor.category = .provider ∧
    sections.enables other.descriptor = true ∧ other.name = candidate.name ∧
      ∃ type, Kind.providers.reportedType? other = some type

/-- A failing plugin is idle if no other provider has its name. -/
theorem idle_of_fruitless (listed : candidate ∈ discovery category)
    (own : candidate.descriptor.category = category)
    (harmless : sections.enables candidate.descriptor = true → candidate.Fruitless ∧
      (category = .provider → ∀ other ∈ discovery .provider,
        other.descriptor.category = .provider → sections.enables other.descriptor = true →
          other.name = candidate.name → other = candidate)) :
    Idle discovery sections category candidate where
  listed := listed
  unbuilt _ enabled := (harmless enabled).1
  untyped := by
    intro provides free
    by_contra taking
    rw [Bool.not_eq_false, Bool.and_eq_true, types_contains_iff free] at taking
    obtain ⟨enabled, other, otherListed, category, otherEnabled, named, type, said⟩ := taking
    obtain ⟨fruitless, alone⟩ := harmless enabled
    rw [alone provides other otherListed category otherEnabled named,
      fruitless.reportedType?_eq_none (own.trans provides)] at said
    cases said

/-- A misfiled candidate is idle if it contests no name. -/
theorem idle_of_misfiled (listed : candidate ∈ discovery category)
    (misfiled : candidate.descriptor.category ≠ category)
    (peaceful : ¬ Contests discovery sections category candidate) :
    Idle discovery sections category candidate where
  listed := listed
  unbuilt own := absurd own misfiled
  untyped := by
    intro provides free
    by_contra taking
    rw [Bool.not_eq_false, Bool.and_eq_true, types_contains_iff free] at taking
    exact peaceful ⟨provides, free, taking.1, taking.2⟩

/-- Every enabled listing of a contested name is excluded, and so nothing of the name is valid. -/
theorem Contests.excluded (contests : Contests discovery sections category candidate)
    (listed : candidate ∈ discovery category)
    (misfiled : candidate.descriptor.category ≠ category) :
    (∀ other ∈ discovery .provider, sections.enables other.descriptor = true →
      other.name = candidate.name → ⟨other.name, other.className, .duplicateName⟩ ∈
        (discovery.validation sections).findings) ∧
    ∀ descriptor ∈ (discovery.validation sections).valid, descriptor.name ≠ candidate.name := by
  obtain ⟨rfl, free, enabled, rival⟩ := contests
  have typed := (types_contains_iff free).mpr rival
  obtain ⟨rival, rivalListed, category, rivalEnabled, rivalNamed, -⟩ := rival
  have apart : rival.descriptor ≠ candidate.descriptor := by
    intro same
    rw [same] at category
    exact misfiled category
  have validated {other : Candidate} (otherListed : other ∈ discovery .provider)
      (named : other.name = candidate.name) :
      other.descriptor ∈ discovery.providerDescriptors := by
    have chosen : other ∈ discovery.providers :=
      mem_providers.mpr ⟨otherListed, by rw [named]; exact free⟩
    exact List.mem_append_right _ (List.mem_map_of_mem chosen)
  constructor
  · intro other otherListed otherEnabled named
    have otherTyped : (discovery.types sections).contains other.descriptor.name = true := by
      rwa [← named] at typed
    -- One of the two is another one than the listing that is looked at.
    by_cases same : other.descriptor = candidate.descriptor
    · exact Graph.duplicate_mem_findings (validated otherListed named)
        (validated rivalListed rivalNamed) otherEnabled rivalEnabled (rivalNamed.trans named.symm)
        (by rwa [same]) otherTyped
    · exact Graph.duplicate_mem_findings (validated otherListed named) (validated listed rfl)
        otherEnabled enabled named.symm (Ne.symm same) otherTyped
  · intro descriptor valid named
    obtain ⟨-, -, -, alone⟩ := Graph.mem_valid_spec valid
    have first := alone candidate.descriptor (validated listed rfl) enabled named.symm
    have second := alone rival.descriptor (validated rivalListed rivalNamed) rivalEnabled
      (rivalNamed.trans named.symm)
    exact apart (second.trans first.symm)

end Discovery

namespace Registry

/-- A plugin that is disabled, or that fails and is the only provider of its name, affects nobody
else. Without it the registry shows the same, and the same providers are excluded in the same order
and for like causes. -/
theorem assemble_isolates (discovery : Discovery) (sections : Sections) (world : World)
    (distinct : discovery.Distinct) {category : Category} {candidate : Candidate}
    (listed : candidate ∈ discovery category) (own : candidate.descriptor.category = category)
    (harmless : sections.enables candidate.descriptor = true → candidate.Fruitless ∧
      (category = .provider → ∀ other ∈ discovery .provider,
        other.descriptor.category = .provider → sections.enables other.descriptor = true →
          other.name = candidate.name → other = candidate)) :
    Indifferent candidate.name (create discovery sections world)
      (create (discovery.without category candidate.className) sections world) :=
  (Discovery.idle_of_fruitless listed own harmless).indifferent distinct world

/-- A provider of times whose constructor fails. -/
def broken : Candidate where
  descriptor := {
    category := .provider
    className := "Clock"
    registration := { name := "time" } }
  constructor := some (.failed (.configuration "time" "no clock"))

def service (name : String) : Candidate where
  descriptor := {
    category := .service
    className := "Service"
    registration := { name := name } }
  constructor := some (.done (.service {}))

/-- A listing where an authorizer depends on the broken provider. -/
def faltering : Discovery
  | .provider => [broken]
  | .authorizer => [authorizer "gate" "time"]
  | .service => [service "api"]
  | _ => []

/-- The authorizer that is not served is left out, as if the broken provider were not listed. -/
theorem assemble_isolates_of_faltering :
    let whole := create faltering [] {}
    faltering.Distinct ∧ broken ∈ faltering .provider ∧ broken.Fruitless ∧
      whole.sight.authorizers.map (fun seen => seen.1.name) = [] ∧
      whole.sight.services.map (fun seen => seen.1.name) = ["api"] ∧
      Indifferent "time" whole (create (faltering.without .provider "Clock") [] {}) := by
  intro whole
  have distinct : faltering.Distinct := by
    unfold Discovery.Distinct
    decide
  have listed : broken ∈ faltering .provider := List.mem_singleton_self broken
  have fruitless : broken.Fruitless := .failed _ rfl
  exact ⟨distinct, listed, fruitless, by decide +kernel, by decide +kernel,
    assemble_isolates faltering [] {} distinct listed rfl fun _ =>
      ⟨fruitless, fun _ other member _ _ _ => List.mem_singleton.mp member⟩⟩

/-- A listing under a wrong category is ignored unless it contests a name. Under a contested name
every enabled listing is excluded, and no provider is left. -/
theorem assemble_ignores_misfiled (discovery : Discovery) (sections : Sections) (world : World)
    (distinct : discovery.Distinct) {category : Category} {candidate : Candidate}
    (listed : candidate ∈ discovery category)
    (misfiled : candidate.descriptor.category ≠ category) :
    let whole := create discovery sections world
    (¬ discovery.Contests sections category candidate →
      Indifferent candidate.name whole
        (create (discovery.without category candidate.className) sections world)) ∧
    (discovery.Contests sections category candidate →
      (∀ other ∈ discovery .provider, sections.enables other.descriptor = true →
        other.name = candidate.name → ⟨other.name, other.className, .duplicateName⟩ ∈
          whole.assemble.1.validation.findings) ∧
      ∀ record ∈ whole.assemble.1.providers, record.name ≠ candidate.name) := by
  intro whole
  constructor
  · intro peaceful
    exact (Discovery.idle_of_misfiled listed misfiled peaceful).indifferent distinct world
  · intro contests
    obtain ⟨stages, assembled⟩ := Assembly.run_assembled distinct sections world
    obtain ⟨excluded, invalid⟩ := contests.excluded listed misfiled
    have validation : whole.assemble.1.validation = discovery.validation sections :=
      assembled.validation
    rw [← validation] at excluded
    refine ⟨excluded, fun record member named => ?_⟩
    obtain ⟨descriptor, valid, same, -, -⟩ := assembled.validated distinct member
    rw [assembled.validation] at valid
    exact invalid descriptor valid (same.trans named)

/-- A listing where a service stands among the providers. -/
def straying (name : String) : Discovery
  | .provider => [counter "Counter" "count", service name]
  | _ => []

/-- A stray of another name is ignored, and one that has the name of a provider takes it away. -/
theorem assemble_ignores_misfiled_of_straying :
    (straying "api").Distinct ∧ (straying "count").Distinct ∧
      Indifferent "api" (create (straying "api") [] {})
        (create ((straying "api").without .provider "Service") [] {}) ∧
      ∀ record ∈ (create (straying "count") [] {}).assemble.1.providers, record.name ≠ "count" := by
  have distinct : (straying "api").Distinct ∧ (straying "count").Distinct := by
    unfold Discovery.Distinct
    decide
  have listed (name : String) : service name ∈ straying name .provider :=
    List.mem_cons_of_mem _ List.mem_cons_self
  have peaceful : ¬ (straying "api").Contests [] .provider (service "api") := by
    rintro ⟨-, -, -, other, member, category, -, named, -⟩
    simp only [straying, List.mem_cons, List.not_mem_nil, or_false] at member
    rcases member with rfl | rfl
    · exact absurd named (by decide)
    · cases category
  have contests : (straying "count").Contests [] .provider (service "count") :=
    ⟨rfl, by decide, by decide, counter "Counter" "count", List.mem_cons_self, rfl, by decide, rfl,
      ⟨"Count"⟩, rfl⟩
  exact ⟨distinct.1, distinct.2,
    (assemble_ignores_misfiled (straying "api") [] {} distinct.1 (listed _) (by decide)).1
      peaceful,
    ((assemble_ignores_misfiled (straying "count") [] {} distinct.2 (listed _) (by decide)).2
      contests).2⟩

/-- The registry without the stray shows the provider whose name the stray has. -/
theorem misfiled_not_ignored :
    (straying "count").Distinct ∧ service "count" ∈ straying "count" .provider ∧
      (service "count").descriptor.category ≠ .provider ∧
      (create ((straying "count").without .provider (service "count").className) [] {}).sight ≠
        (create (straying "count") [] {}).sight := by
  refine ⟨?_, List.mem_cons_of_mem _ List.mem_cons_self, by decide, fun same => ?_⟩
  · unfold Discovery.Distinct
    decide
  · have orders := congrArg (fun sight : Sight => sight.loadOrder.map Descriptor.name) same
    exact absurd orders (by decide +kernel)

end Registry

end PluginHost
