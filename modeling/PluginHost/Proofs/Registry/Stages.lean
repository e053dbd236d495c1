import PluginHost.Proofs.Factory.Housing
import PluginHost.Proofs.Registry.Providers

/-
This file says what a whole assembly consists of: the plugins that each category has built, and the
plugins that waited for injection when all of them were built.
-/

namespace PluginHost

open Factory (offer offer? sortByPriority admissible entry)

variable {ι : Type}

/-- The candidates of a category that the valid providers serve, in the order in which they are
built. -/
def Discovery.admitted (discovery : Discovery) (sections : Sections) (kind : Kind ι) :
    List Candidate :=
  sortByPriority ((discovery kind.category).filter fun candidate =>
    candidate.descriptor.category == kind.category &&
      Precondition.holds (discovery.valid sections) sections candidate.descriptor)

/-- The admitted candidates that yield a plugin. -/
def Discovery.yielded (discovery : Discovery) (sections : Sections) (kind : Kind ι) :
    List Candidate :=
  (discovery.admitted sections kind).filter fun candidate =>
    (offer? sections kind candidate).isSome

/-- The candidates whose plugins stay in the registry. -/
def Discovery.collected (discovery : Discovery) (sections : Sections) :
    Category → List Candidate
  | .provider => discovery.kept sections
  | .initializer => discovery.yielded sections Kind.initializers
  | .authMechanism => discovery.yielded sections Kind.authMechanisms
  | .authorizer => discovery.yielded sections Kind.authorizers
  | .tokenManager => discovery.yielded sections Kind.tokenManagers
  | .authenticator => discovery.yielded sections Kind.authenticators
  | .interceptor => discovery.yielded sections Kind.interceptors
  | .service => discovery.yielded sections Kind.services

/-- The candidates whose constructors are called, in the order of the calls. -/
def Discovery.called (discovery : Discovery) (sections : Sections) : Category → List Candidate
  | .provider => Assembly.calledProviders discovery sections
  | .initializer => (discovery.admitted sections Kind.initializers).filter sections.summons
  | .authMechanism => (discovery.admitted sections Kind.authMechanisms).filter sections.summons
  | .authorizer => (discovery.admitted sections Kind.authorizers).filter sections.summons
  | .tokenManager => (discovery.admitted sections Kind.tokenManagers).filter sections.summons
  | .authenticator => (discovery.admitted sections Kind.authenticators).filter sections.summons
  | .interceptor => (discovery.admitted sections Kind.interceptors).filter sections.summons
  | .service => (discovery.admitted sections Kind.services).filter sections.summons

namespace Discovery

variable {discovery : Discovery} {sections : Sections} {kind : Kind ι} {candidate : Candidate}

theorem mem_admitted : candidate ∈ discovery.admitted sections kind ↔
    candidate ∈ discovery kind.category ∧ candidate.descriptor.category = kind.category ∧
      Precondition.holds (discovery.valid sections) sections candidate.descriptor = true := by
  rw [admitted, (Factory.sortByPriority_inPriorityOrder _).mem_iff, List.mem_filter,
    Bool.and_eq_true, beq_iff_eq]

theorem mem_yielded : candidate ∈ discovery.yielded sections kind ↔
    candidate ∈ discovery.admitted sections kind ∧
      (offer? sections kind candidate).isSome = true := by
  rw [yielded, List.mem_filter]

/-- What the host requires of a plugin before it collects it. -/
structure Accepted (discovery : Discovery) (sections : Sections) (category : Category)
    (candidate : Candidate) : Prop where
  listed : candidate ∈ Builtin.candidates ∨ candidate ∈ discovery category
  category : candidate.descriptor.category = category
  enabled : sections.enables candidate.descriptor = true
  served : ∀ field ∈ candidate.descriptor.fields,
    Precondition.servesField (discovery.valid sections) field = true

theorem yielded_accepted (kind : Kind ι) (member : candidate ∈ discovery.yielded sections kind) :
    Accepted discovery sections kind.category candidate := by
  obtain ⟨admitted, yields⟩ := mem_yielded.mp member
  obtain ⟨listed, category, holds⟩ := mem_admitted.mp admitted
  obtain ⟨one, offered⟩ := Option.isSome_iff_exists.mp yields
  obtain ⟨enabled, -⟩ := Factory.offer?_eq_some_iff.mp offered
  exact ⟨.inr listed, category, enabled, (Precondition.holds_iff enabled).mp holds⟩

theorem Distinct.kept_accepted (distinct : discovery.Distinct)
    (member : candidate ∈ discovery.kept sections) :
    Accepted discovery sections .provider candidate := by
  obtain ⟨tried, valid⟩ := distinct.mem_kept.mp member
  obtain ⟨enabled, -⟩ := distinct.kept_spec member
  have served : ∀ field ∈ candidate.descriptor.fields,
      Precondition.servesField (discovery.valid sections) field = true :=
    fun field fieldIn => Graph.servesField_of_mem_valid valid fieldIn
  rcases mem_tried.mp tried with own | ⟨listed, category⟩
  · refine ⟨.inl own, ?_, enabled, served⟩
    rw [Builtin.candidates, List.mem_cons, List.mem_singleton] at own
    rcases own with rfl | rfl
    · rfl
    · rfl
  · exact ⟨.inr (mem_providers.mp listed).1, category, enabled, served⟩

theorem Distinct.collected_accepted (distinct : discovery.Distinct) {category : Category}
    (member : candidate ∈ discovery.collected sections category) :
    Accepted discovery sections category candidate := by
  cases category with
  | provider => exact distinct.kept_accepted member
  | initializer => exact yielded_accepted Kind.initializers member
  | authMechanism => exact yielded_accepted Kind.authMechanisms member
  | authorizer => exact yielded_accepted Kind.authorizers member
  | tokenManager => exact yielded_accepted Kind.tokenManagers member
  | authenticator => exact yielded_accepted Kind.authenticators member
  | interceptor => exact yielded_accepted Kind.interceptors member
  | service => exact yielded_accepted Kind.services member

end Discovery

/-- The records of a category are those of the plugins that were built from what it admits. -/
structure Collected (discovery : Discovery) (sections : Sections) (kind : Kind ι)
    (built : List (Built ι)) (records : List (Record (Live ι))) : Prop where
  offered : built.map offer =
    (discovery.admitted sections kind).filterMap (offer? sections kind)
  records : records = built.map Built.record

/-- A plugin waits as what its candidate was built into. -/
structure WaitsFor (sections : Sections) (candidate : Candidate) (pending : Pending) : Prop where
  descriptor : pending.descriptor = candidate.descriptor
  wanting : candidate.descriptor.injections.isEmpty = false
  card : pending.record.card = Record.make candidate.descriptor sections ()

theorem BuiltFrom.waitsFor {sections : Sections} {kind : Kind ι} {candidate : Candidate}
    {plugin : Built ι} (yielded : BuiltFrom sections kind candidate plugin)
    (wanting : plugin.descriptor.injections.isEmpty = false) :
    WaitsFor sections candidate ⟨plugin.descriptor, plugin.record.erase kind⟩ where
  descriptor := yielded.descriptor
  wanting := by rwa [← yielded.descriptor]
  card := congrArg Record.card yielded.record

theorem Collected.waitsFor {discovery : Discovery} {sections : Sections} {kind : Kind ι}
    {built : List (Built ι)} {records : List (Record (Live ι))}
    (collected : Collected discovery sections kind built records) {pending : Pending}
    (waits : pending ∈ built.filterMap (Built.waiting? kind)) :
    ∃ candidate ∈ discovery.yielded sections kind, WaitsFor sections candidate pending := by
  obtain ⟨plugin, member, wanting, rfl⟩ := Built.mem_filterMap_waiting?.mp waits
  obtain ⟨candidate, admitted, yielded⟩ := BuiltFrom.exists_candidate collected.offered member
  have yields : (offer? sections kind candidate).isSome = true :=
    Option.isSome_of_eq_some (BuiltFrom.iff_offer.mp yielded)
  exact ⟨candidate, Discovery.mem_yielded.mpr ⟨admitted, yields⟩, yielded.waitsFor wanting⟩

namespace Assembly

/-- How far an assembly has come between two categories: what waits, what stays, and which
constructors were called. -/
structure Underway (sections : Sections) (start : World) (pending : List Pending)
    (entries : List (String × Record (Live Plugin))) (births : List JournalEntry)
    (factory : Factory) : Prop where
  sections : factory.sections = sections
  pending : factory.pending = pending
  table : ∀ className, factory.records.find? className =
    (Table.ofEntries entries).find? className
  constructs : Constructs start factory.world births
  housed : Housed factory.records factory.world

theorem providerSet_underway (discovery : Discovery) (sections : Sections) (world : World) :
    let answer := providerSet discovery { sections := sections, world := world }
    ∃ built, Providers discovery sections world built answer.1 answer.2 ∧
      Underway sections world
        ((discovery.validation sections).loadOrder.filterMap
          (Factory.waiting? (Table.ofEntries (built.map (entry Kind.providers)))))
        (built.map (entry Kind.providers))
        ((calledProviders discovery sections).map Candidate.birth) answer.2 := by
  intro answer
  obtain ⟨built, kept⟩ := providerSet_providers discovery sections world
  let empty : Factory := { sections := sections, world := world }
  have start : Housed empty.records empty.world := .nothing world
  exact ⟨built, kept, kept.unchanged, kept.pending, kept.table, kept.constructs,
    providerSet_housed discovery start⟩

section
variable {discovery : Discovery} {sections : Sections} {start : World} {pending : List Pending}
  {entries : List (String × Record (Live Plugin))} {births : List JournalEntry}
  {factory : Factory} (underway : Underway sections start pending entries births factory)
include underway

theorem Underway.report (events : List Log.Event) :
    Underway sections start pending entries births (factory.report events) where
  sections := underway.sections
  pending := underway.pending
  table := underway.table
  constructs := underway.constructs
  housed := underway.housed.mono List.prefix_rfl

/-- Building a category collects its records and lets them wait. -/
theorem Underway.category {kind : Kind ι} (faithful : kind.Faithful)
    (distinct : discovery.Distinct) {valid : ValidProviders}
    (checks : valid = discovery.valid sections) :
    let answer := Assembly.category kind discovery valid factory
    ∃ built, Collected discovery sections kind built answer.1 ∧
      Underway sections start (pending ++ built.filterMap (Built.waiting? kind))
        (entries ++ built.map (entry kind))
        (births ++ ((discovery.admitted sections kind).filter sections.summons).map
          Candidate.birth) answer.2 := by
  intro answer
  have housed : Housed answer.2.records answer.2.world :=
    category_housed faithful discovery valid underway.housed
  obtain ⟨rfl, waits, table, constructs, -⟩ := underway
  subst checks
  let condition : Factory.Condition := {
    holds := Precondition.holds (discovery.valid factory.sections) factory.sections
    log := Precondition.log (discovery.valid factory.sections) factory.sections }
  obtain ⟨offered, adds⟩ := factory.instantiate_adds kind condition (discovery kind.category)
  have once := (distinct.category kind.category).sublist
    (List.filter_sublist.map Candidate.className :
      ((admissible kind condition (discovery kind.category)).map _).Sublist _)
  rw [← ((Factory.sortByPriority_inPriorityOrder _).perm.map _).nodup_iff] at once
  have classes := once.sublist (BuiltFrom.classes offered)
  have called := factory.instantiate_constructs kind condition (discovery kind.category)
  let built := (factory.instantiate kind condition (discovery kind.category)).1
  have ends : answer.2 = { (factory.instantiate kind condition (discovery kind.category)).2 with
      pending := (factory.instantiate kind condition (discovery kind.category)).2.pending ++
        built.filterMap (Built.waiting? kind) } :=
    Factory.enqueue_built classes adds.records
  refine ⟨built, ⟨offered, rfl⟩, ?_⟩
  rw [ends] at housed ⊢
  refine ⟨adds.sections, ?_, fun className => ?_, constructs.trans called, housed⟩
  · dsimp only
    rw [adds.pending, waits]
  · have both : Table.ofEntries (entries ++ built.map (entry kind)) =
        (Table.ofEntries entries).extend (built.map (entry kind)) :=
      Table.extend_append [] entries _
    dsimp only
    rw [adds.records, both, Table.find?_extend, Table.find?_extend, table]

end

/-- The plugins that the categories of an assembly have built. -/
structure Stages where
  providers : List (Built Provider)
  initializers : List (Built Initializer)
  authMechanisms : List (Built Plugin)
  authorizers : List (Built Plugin)
  tokenManagers : List (Built Plugin)
  authenticators : List (Built Plugin)
  interceptors : List (Built Exchanger)
  services : List (Built Exchanger)

/-- Providers wait in their load order, and the others behind them in boot order. -/
def Stages.pending (stages : Stages) (loadOrder : List Descriptor) : List Pending :=
  loadOrder.filterMap
      (Factory.waiting? (Table.ofEntries (stages.providers.map (entry Kind.providers)))) ++
    stages.initializers.filterMap (Built.waiting? Kind.initializers) ++
    stages.authMechanisms.filterMap (Built.waiting? Kind.authMechanisms) ++
    stages.authorizers.filterMap (Built.waiting? Kind.authorizers) ++
    stages.tokenManagers.filterMap (Built.waiting? Kind.tokenManagers) ++
    stages.authenticators.filterMap (Built.waiting? Kind.authenticators) ++
    stages.interceptors.filterMap (Built.waiting? Kind.interceptors) ++
    stages.services.filterMap (Built.waiting? Kind.services)

/-- How the result of an assembly rests on its stages. -/
structure Assembled (discovery : Discovery) (sections : Sections) (stages : Stages)
    (result : Result) : Prop where
  validation : result.assembly.validation = discovery.validation sections
  valid : result.assembly.valid = discovery.valid sections
  offered : stages.providers.map offer =
    (discovery.kept sections).filterMap (offer? sections Kind.providers)
  providers : result.assembly.providers = stages.providers.map Built.record
  initializers : Collected discovery sections Kind.initializers stages.initializers
    result.assembly.initializers
  authMechanisms : Collected discovery sections Kind.authMechanisms stages.authMechanisms
    result.assembly.authMechanisms
  authorizers : Collected discovery sections Kind.authorizers stages.authorizers
    result.assembly.authorizers
  tokenManagers : ∃ records, Collected discovery sections Kind.tokenManagers stages.tokenManagers
    records ∧ result.assembly.tokenManager = records.head?
  authenticators : Collected discovery sections Kind.authenticators stages.authenticators
    result.assembly.authenticators
  interceptors : Collected discovery sections Kind.interceptors stages.interceptors
    result.interceptors
  services : Collected discovery sections Kind.services stages.services result.services
  report : ∃ world, result.assembly.report = (Injection.serveAll result.assembly.providers
    (stages.pending (discovery.validation sections).loadOrder) world).1

/-- The entries of all the plugins that stay. -/
def Stages.entries (stages : Stages) : List (String × Record (Live Plugin)) :=
  stages.providers.map (entry Kind.providers) ++
    stages.initializers.map (entry Kind.initializers) ++
    stages.authMechanisms.map (entry Kind.authMechanisms) ++
    stages.authorizers.map (entry Kind.authorizers) ++
    stages.tokenManagers.map (entry Kind.tokenManagers) ++
    stages.authenticators.map (entry Kind.authenticators) ++
    stages.interceptors.map (entry Kind.interceptors) ++
    stages.services.map (entry Kind.services)

/-- The table of records at the end of an assembly, and the calls on the way there. First come the
constructors of all categories, then the injection of the plugins that wait. -/
structure Recorded (discovery : Discovery) (sections : Sections) (world : World) (stages : Stages)
    (result : Result) : Prop where
  table : ∀ className, result.factory.records.find? className =
    (Table.ofEntries stages.entries).find? className
  journal : ∃ between, Constructs world between (Category.bootOrder.flatMap fun category =>
      (discovery.called sections category).map Candidate.birth) ∧
    result.factory.world.journal = (Injection.serveAll result.assembly.providers
      (stages.pending (discovery.validation sections).loadOrder) between).2.journal

/-- The injection at the end of an assembly. It meets plugins that live apart, each with a fresh
memory, and nothing changes the memories after it. -/
structure Injected (discovery : Discovery) (sections : Sections) (stages : Stages)
    (result : Result) (between : World) : Prop where
  housed : Housed result.factory.records between
  report : result.assembly.report = (Injection.serveAll result.assembly.providers
    (stages.pending (discovery.validation sections).loadOrder) between).1
  residents : result.factory.world.residents = (Injection.serveAll result.assembly.providers
    (stages.pending (discovery.validation sections).loadOrder) between).2.residents

/-- How far an assembly has come when the plugins of all categories are built. -/
def readied (discovery : Discovery) (factory : Factory) : Factory :=
  let set := providerSet discovery factory
  let first := category Kind.initializers discovery set.1.valid set.2
  let second := category Kind.authMechanisms discovery set.1.valid first.2
  let third := category Kind.authorizers discovery set.1.valid second.2
  let fourth := category Kind.tokenManagers discovery set.1.valid third.2
  let mentioned := fourth.2.report (tokenManagerLog fourth.1)
  let fifth := category Kind.authenticators discovery set.1.valid mentioned
  let sixth := category Kind.interceptors discovery set.1.valid fifth.2
  (category Kind.services discovery set.1.valid sixth.2).2

/-- The injection meets the world in which everything is built, and what has queued up by then. -/
theorem run_readied {discovery : Discovery} (distinct : discovery.Distinct)
    (sections : Sections) (world : World) :
    let result := run discovery { sections := sections, world := world }
    let ready := readied discovery { sections := sections, world := world }
    ∃ stages, Assembled discovery sections stages result ∧
      Recorded discovery sections world stages result ∧
        Injected discovery sections stages result ready.world ∧
          ready.pending = stages.pending (discovery.validation sections).loadOrder := by
  intro result ready
  let set := providerSet discovery { sections := sections, world := world }
  let first := category Kind.initializers discovery set.1.valid set.2
  let second := category Kind.authMechanisms discovery set.1.valid first.2
  let third := category Kind.authorizers discovery set.1.valid second.2
  let fourth := category Kind.tokenManagers discovery set.1.valid third.2
  let mentioned := fourth.2.report (tokenManagerLog fourth.1)
  let fifth := category Kind.authenticators discovery set.1.valid mentioned
  let sixth := category Kind.interceptors discovery set.1.valid fifth.2
  let seventh := category Kind.services discovery set.1.valid sixth.2
  obtain ⟨-, faithful1, faithful2, faithful3, faithful4, faithful5, faithful6, faithful7⟩ :=
    Kind.all_faithful
  obtain ⟨providers, kept, underway⟩ := providerSet_underway discovery sections world
  obtain ⟨initializers, built1, underway1⟩ := underway.category faithful1 distinct kept.valid
  obtain ⟨authMechanisms, built2, underway2⟩ := underway1.category faithful2 distinct kept.valid
  obtain ⟨authorizers, built3, underway3⟩ := underway2.category faithful3 distinct kept.valid
  obtain ⟨tokenManagers, built4, underway4⟩ := underway3.category faithful4 distinct kept.valid
  have resumed := underway4.report (tokenManagerLog fourth.1)
  obtain ⟨authenticators, built5, underway5⟩ := resumed.category faithful5 distinct kept.valid
  obtain ⟨interceptors, built6, underway6⟩ := underway5.category faithful6 distinct kept.valid
  obtain ⟨services, built7, underway7⟩ := underway6.category faithful7 distinct kept.valid
  let stages : Stages := ⟨providers, initializers, authMechanisms, authorizers, tokenManagers,
    authenticators, interceptors, services⟩
  have waiting : seventh.2.pending = stages.pending (discovery.validation sections).loadOrder :=
    underway7.pending
  have called : Constructs world seventh.2.world (Category.bootOrder.flatMap fun category =>
      (discovery.called sections category).map Candidate.birth) := by
    simp only [Category.bootOrder, List.flatMap_cons, List.flatMap_nil, List.append_nil,
      ← List.append_assoc]
    exact underway7.constructs
  have injected : Injected discovery sections stages result seventh.2.world := by
    refine ⟨underway7.housed, ?_, ?_⟩ <;>
      · rw [← waiting]
        rfl
  refine ⟨stages, {
    validation := kept.validation
    valid := kept.valid
    offered := kept.offered
    providers := kept.records
    initializers := built1
    authMechanisms := built2
    authorizers := built3
    tokenManagers := ⟨fourth.1, built4, rfl⟩
    authenticators := built5
    interceptors := built6
    services := built7
    report := ⟨seventh.2.world, injected.report⟩ }, ⟨underway7.table, seventh.2.world, called, ?_⟩,
    injected, waiting⟩
  rw [← waiting]
  rfl

theorem run_injected {discovery : Discovery} (distinct : discovery.Distinct)
    (sections : Sections) (world : World) :
    let result := run discovery { sections := sections, world := world }
    ∃ stages, Assembled discovery sections stages result ∧
      Recorded discovery sections world stages result ∧
        ∃ between, Injected discovery sections stages result between :=
  (run_readied distinct sections world).imp fun _ all => ⟨all.1, all.2.1, _, all.2.2.1⟩

theorem run_staged {discovery : Discovery} (distinct : discovery.Distinct)
    (sections : Sections) (world : World) :
    let result := run discovery { sections := sections, world := world }
    ∃ stages, Assembled discovery sections stages result ∧
      Recorded discovery sections world stages result :=
  (run_injected distinct sections world).imp fun _ all => ⟨all.1, all.2.1⟩

theorem run_assembled {discovery : Discovery} (distinct : discovery.Distinct)
    (sections : Sections) (world : World) :
    ∃ stages, Assembled discovery sections stages
      (run discovery { sections := sections, world := world }) :=
  (run_staged distinct sections world).imp fun _ both => both.1

namespace Assembled

variable {discovery : Discovery} {sections : Sections} {stages : Stages} {result : Result}

theorem kept_of_provider (assembled : Assembled discovery sections stages result)
    {plugin : Built Provider} (member : plugin ∈ stages.providers) :
    ∃ candidate ∈ discovery.kept sections,
      BuiltFrom sections Kind.providers candidate plugin :=
  BuiltFrom.exists_candidate assembled.offered member

theorem provider_waitsFor (assembled : Assembled discovery sections stages result)
    (distinct : discovery.Distinct) {descriptor : Descriptor} {pending : Pending}
    (ordered : descriptor ∈ (discovery.validation sections).loadOrder)
    (waits : Factory.waiting? (Table.ofEntries (stages.providers.map (entry Kind.providers)))
      descriptor = some pending) :
    ∃ candidate ∈ discovery.kept sections, WaitsFor sections candidate pending := by
  obtain ⟨wanting, record, found, rfl⟩ := Factory.waiting?_eq_some_iff.mp waits
  obtain ⟨plugin, member, recorded⟩ := List.mem_map.mp (Table.mem_of_find?_ofEntries found)
  obtain ⟨same, rfl⟩ := Prod.mk.inj recorded
  obtain ⟨candidate, kept, yielded⟩ := assembled.kept_of_provider member
  have valid := (Graph.validate_loadOrder_perm (Graph.ofProviders_distinct ..)).mem_iff.mp ordered
  have candidateValid := (distinct.mem_kept.mp kept).2
  rw [← yielded.descriptor] at candidateValid
  have equal := distinct.eq_of_className (Discovery.mem_validated candidateValid)
    (Discovery.mem_validated valid) same
  rw [← equal] at wanting ⊢
  exact ⟨candidate, kept, yielded.waitsFor wanting⟩

/-- Whatever waits in an assembly is a collected plugin of its category. -/
theorem waitsFor (assembled : Assembled discovery sections stages result)
    (distinct : discovery.Distinct) {pending : Pending}
    (waits : pending ∈ stages.pending (discovery.validation sections).loadOrder) :
    ∃ category, ∃ candidate ∈ discovery.collected sections category,
      WaitsFor sections candidate pending := by
  simp only [Stages.pending, List.mem_append] at waits
  obtain ⟨tokenManagers, fourth, -⟩ := assembled.tokenManagers
  rcases waits with (((((((zeroth | first) | second) | third) | fourthWaits) | fifth) | sixth) |
    seventh)
  · obtain ⟨descriptor, ordered, waiting⟩ := List.mem_filterMap.mp zeroth
    exact ⟨.provider, assembled.provider_waitsFor distinct ordered waiting⟩
  · exact ⟨.initializer, assembled.initializers.waitsFor first⟩
  · exact ⟨.authMechanism, assembled.authMechanisms.waitsFor second⟩
  · exact ⟨.authorizer, assembled.authorizers.waitsFor third⟩
  · exact ⟨.tokenManager, fourth.waitsFor fourthWaits⟩
  · exact ⟨.authenticator, assembled.authenticators.waitsFor fifth⟩
  · exact ⟨.interceptor, assembled.interceptors.waitsFor sixth⟩
  · exact ⟨.service, assembled.services.waitsFor seventh⟩

end Assembled

end Assembly

end PluginHost
