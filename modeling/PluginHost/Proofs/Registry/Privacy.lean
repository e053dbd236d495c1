import PluginHost.Proofs.Receipt
import PluginHost.Proofs.Registry.Agreement
import PluginHost.Proofs.Registry.Standing

/-
This file proves that no plugin is given the configuration of another one. The name of the provider
of configurations belongs to the host, and each plugin is handed its own section.
-/

namespace PluginHost

/-- Whatever the constructor makes writes its slots once. -/
def Candidate.WriteOnce (candidate : Candidate) : Prop :=
  ∀ made, candidate.constructor = some (.done made) →
    made.plugin.WriteOnce ∧ ∀ face, made = .provider face → face.WriteOnce

def Discovery.WriteOnce (discovery : Discovery) : Prop :=
  ∀ category, ∀ candidate ∈ discovery category, candidate.WriteOnce

theorem Plugin.writeOnce_of_hookless {plugin : Plugin} (hookless : plugin.hook? = fun _ => none) :
    plugin.WriteOnce := by
  intro method run found
  rw [hookless] at found
  cases found

theorem Builtin.writeOnce {candidate : Candidate} (own : candidate ∈ Builtin.candidates) :
    candidate.WriteOnce := by
  rw [Builtin.candidates, List.mem_cons, List.mem_singleton] at own
  rcases own with rfl | rfl
  · intro made constructed
    cases constructed
    have hookless : configProvider.toPlugin.WriteOnce := Plugin.writeOnce_of_hookless rfl
    refine ⟨hookless, fun face same => ?_⟩
    cases same
    exact ⟨hookless, fun _ memory => .refl memory⟩
  · intro made constructed
    cases constructed
    have hookless : registryProvider.toPlugin.WriteOnce := Plugin.writeOnce_of_hookless rfl
    refine ⟨hookless, fun face same => ?_⟩
    cases same
    exact ⟨hookless, fun _ memory => .refl memory⟩

/-- The provider of configurations hands out what the record of the consumer holds. -/
theorem Injection.produce_config {provider : ProviderRecord}
    (faced : provider.plugin.face = Builtin.configProvider) (world : World) (plugin : String)
    (consumer : Record (Live Plugin)) :
    (produce world provider plugin consumer).1 =
      .ok ⟨.configSection, .settings (consumer.config.getD [])⟩ := by
  unfold produce
  rw [faced]
  rfl

namespace Assembly.Assembled

variable {discovery : Discovery} {sections : Sections} {stages : Stages} {result : Result}
  (assembled : Assembled discovery sections stages result) (distinct : discovery.Distinct)
include assembled distinct

/-- The host's own provider of configurations stands under its name. -/
theorem config_serves (enabled : sections.enables Builtin.config = true) :
    ∃ record ∈ result.assembly.providers, record.name = Builtin.configName ∧
      record.implementation = Builtin.config.className ∧
        record.plugin.face = Builtin.configProvider := by
  let own : Candidate := {
    descriptor := Builtin.config
    constructor := some (.done (.provider Builtin.configProvider)) }
  have kept : own ∈ discovery.kept sections := Discovery.own_mem_kept List.mem_cons_self enabled
  obtain ⟨plugin, member, yielded⟩ :=
    BuiltFrom.exists_built assembled.offered kept (distinct.kept_offered kept)
  obtain ⟨made, -⟩ := Kind.providers_face?_iff.mp yielded.face
  have same := (Candidate.made?_eq_some_iff.mp made).2
  simp only [own, Option.some.injEq, Outcome.done.injEq, Instance.provider.injEq] at same
  rw [assembled.providers]
  exact ⟨plugin.record, List.mem_map_of_mem member, yielded.name, yielded.implementation,
    same.symm⟩

theorem providers_writeOnce (writes : discovery.WriteOnce) :
    ∀ record ∈ result.assembly.providers, record.plugin.face.WriteOnce := by
  intro record member
  obtain ⟨candidate, kept, plugin, yielded, rfl⟩ := assembled.kept_of_record member
  obtain ⟨made, -⟩ := Kind.providers_face?_iff.mp yielded.face
  have constructed := (Candidate.made?_eq_some_iff.mp made).2
  rcases (distinct.kept_accepted kept).listed with own | listed
  · exact (Builtin.writeOnce own _ constructed).2 _ rfl
  · exact (writes .provider candidate listed _ constructed).2 _ rfl

theorem standing_writeOnce (writes : discovery.WriteOnce) :
    ∀ pending ∈ stages.standing, pending.record.plugin.face.WriteOnce := by
  intro pending stands
  obtain ⟨candidate, origin, born⟩ := assembled.standing_born distinct stands
  obtain ⟨made, constructed, faced⟩ := born.made
  rw [faced]
  rcases origin with own | ⟨category, listed⟩
  · exact (Builtin.writeOnce own _ constructed).1
  · exact (writes category candidate listed _ constructed).1

/-- The record of a plugin holds the section under its own name. -/
theorem standing_config {pending : Pending} (stands : pending ∈ stages.standing) :
    pending.record.config = sections.find? pending.descriptor.name := by
  obtain ⟨candidate, -, born⟩ := assembled.standing_born distinct stands
  rw [born.descriptor]
  exact congrArg Record.config born.record

end Assembly.Assembled

namespace Registry

variable {discovery : Discovery} {sections : Sections} {world : World} {plugin : Pending}
  {field : FieldInjection}

/-- The field was injected into the plugin when the registry was assembled. -/
def Received (discovery : Discovery) (sections : Sections) (world : World) (plugin : Pending)
    (field : FieldInjection) : Prop :=
  let ready := Assembly.readied discovery { sections := sections, world := world }
  Injection.Received (create discovery sections world).assemble.1.providers ready.pending
    ready.world plugin field

/-- What a slot of the plugin holds once the registry is assembled. -/
def held? (discovery : Discovery) (sections : Sections) (world : World) (plugin : Pending)
    (name : String) : Option Value :=
  Injection.content? plugin.record (create discovery sections world).assembled.world name

/-- The configurations of an assembled registry stay with their plugins. Who waits for its injection
and is not reported has received everything, and what was received from the provider of
configurations is the section of the plugin. -/
structure Private (discovery : Discovery) (sections : Sections) (world : World) : Prop where
  resolves : ∃ record, Injection.provider? (create discovery sections world).assemble.1.providers
    Builtin.configName = some record ∧ record.implementation = Builtin.config.className ∧
      record.plugin.face = Builtin.configProvider
  alone : ∀ record ∈ (create discovery sections world).assemble.1.providers,
    record.name = Builtin.configName → record.implementation = Builtin.config.className
  checked : (create discovery sections world).assemble.1.valid.find? Builtin.configName =
    some ⟨Builtin.config.className, .configSection⟩
  recorded : ∀ plugin field, Received discovery sections world plugin field →
    (create discovery sections world).assembled.factory.record? plugin.className =
      some plugin.record
  given : ∀ plugin,
    plugin ∈ (Assembly.readied discovery { sections := sections, world := world }).pending →
      (∃ failure ∈ (create discovery sections world).assemble.1.report.failures,
        failure.plugin = plugin.descriptor.name ∧
          failure.category = plugin.descriptor.category) ∨
      ∀ field ∈ plugin.descriptor.fields, Received discovery sections world plugin field
  own : ∀ plugin field, Received discovery sections world plugin field →
    field.provider = Builtin.configName → held? discovery sections world plugin field.field =
      some (.settings ((sections.find? plugin.descriptor.name).getD []))

/-- Only plugins that stay in the registry receive anything. -/
theorem Received.stands {stages : Assembly.Stages}
    (assembled : Assembly.Assembled discovery sections stages
      (Assembly.run discovery { sections := sections, world := world }))
    (distinct : discovery.Distinct)
    (waiting : (Assembly.readied discovery { sections := sections, world := world }).pending =
      stages.pending (discovery.validation sections).loadOrder)
    (received : Received discovery sections world plugin field) : plugin ∈ stages.standing := by
  have waits := Injection.Received.waits received
  rw [waiting, (assembled.waiting_perm distinct).mem_iff] at waits
  exact List.mem_of_mem_filter waits

/-- Under the one name stands the one provider, and the field holds what it produces. -/
theorem Received.holds_section {stages : Assembly.Stages}
    (assembled : Assembly.Assembled discovery sections stages
      (Assembly.run discovery { sections := sections, world := world }))
    (distinct : discovery.Distinct) (writes : discovery.WriteOnce)
    (injected : Assembly.Injected discovery sections stages
      (Assembly.run discovery { sections := sections, world := world })
      (Assembly.readied discovery { sections := sections, world := world }).world)
    (waiting : (Assembly.readied discovery { sections := sections, world := world }).pending =
      stages.pending (discovery.validation sections).loadOrder)
    (enabled : sections.enables Builtin.config = true)
    (received : Received discovery sections world plugin field)
    (asks : field.provider = Builtin.configName) :
    held? discovery sections world plugin field.field =
      some (.settings ((sections.find? plugin.descriptor.name).getD [])) := by
  obtain ⟨config, member, named, -, faced⟩ := assembled.config_serves distinct enabled
  have othersWrite := assembled.standing_writeOnce distinct writes
  obtain ⟨now, provider, value, resolved, produced, held⟩ :=
    Injection.Received.holds received (assembled.providers_writeOnce distinct writes) (by
      rw [waiting]
      intro pending waits
      exact othersWrite pending
        (List.mem_of_mem_filter ((assembled.waiting_perm distinct).mem_iff.mp waits)))
  have same : some config = some provider := by
    rw [← resolved, asks, ← named]
    exact (assembled.provider?_of_mem distinct member).symm
  rw [← Option.some.inj same, Injection.produce_config faced] at produced
  cases produced
  rw [← assembled.standing_config distinct (received.stands assembled distinct waiting)]
  rw [waiting] at held
  exact (Injection.content?_of_residents injected.residents).trans held

theorem assemble_private_of (distinct : discovery.Distinct) (writes : discovery.WriteOnce)
    (world : World) (enabled : sections.enables Builtin.config = true) :
    Private discovery sections world := by
  obtain ⟨stages, assembled, recorded, injected, waiting⟩ :=
    Assembly.run_readied distinct sections world
  obtain ⟨config, member, named, implementation, faced⟩ := assembled.config_serves distinct enabled
  have served := assembled.provider?_of_mem distinct member
  obtain ⟨produced, told, checked⟩ := assembled.reported distinct member
  refine ⟨⟨config, ?_, implementation, faced⟩, ?_, ?_, ?_, ?_, ?_⟩
  · rw [← named]
    exact served
  · intro record otherMember otherNamed
    have otherServed := assembled.provider?_of_mem distinct otherMember
    rw [otherNamed, ← named, served, Option.some.injEq] at otherServed
    rw [← otherServed, implementation]
  · rw [faced] at told
    cases told
    rw [← named, ← implementation]
    exact checked
  · intro plugin field received
    exact (recorded.record?_iff (assembled.standing_classes distinct) _ _).mpr
      ⟨plugin, received.stands assembled distinct waiting, rfl, rfl⟩
  · exact fun plugin waits => Injection.received_or_reported waits
  · exact fun plugin field received asks =>
      received.holds_section assembled distinct writes injected waiting enabled asks

/-- The name of the configurations belongs to the host, and whatever is injected from there is the
section of the plugin itself. So a plugin is given the same in two runs that agree on its section,
whatever the other sections hold. -/
theorem assemble_private (discovery : Discovery) (sections : Sections) (world : World)
    (distinct : discovery.Distinct) (writes : discovery.WriteOnce)
    (enabled : sections.enables Builtin.config = true) :
    Private discovery sections world ∧
      ∀ (others : Sections) (elsewhere : World), others.enables Builtin.config = true →
        ∀ plugin twin field alike, Received discovery sections world plugin field →
          Received discovery others elsewhere twin alike →
            field.provider = Builtin.configName → alike.provider = Builtin.configName →
              plugin.descriptor.name = twin.descriptor.name →
                sections.find? plugin.descriptor.name = others.find? plugin.descriptor.name →
                  held? discovery sections world plugin field.field =
                    held? discovery others elsewhere twin alike.field := by
  refine ⟨assemble_private_of distinct writes world enabled, ?_⟩
  intro others elsewhere alsoEnabled plugin twin field alike received alsoReceived asks alsoAsks
    named agree
  rw [(assemble_private_of distinct writes world enabled).own plugin field received asks,
    (assemble_private_of distinct writes elsewhere alsoEnabled).own twin alike alsoReceived
      alsoAsks, agree, named]

/-- A listing of a vault and of a provider that claims the name of the configurations. -/
def claimed : Discovery
  | .provider => [
      { descriptor := {
          category := .provider
          className := "Spy"
          registration := { name := "config", priority := -5 } }
        constructor := some (.done (.provider {
          producedType := .ok .configSection
          produce := fun _ memory => ⟨.done ⟨.configSection, .settings []⟩, memory, []⟩ })) }]
  | .service => [
      { descriptor := {
          category := .service
          className := "Vault"
          registration := { name := "vault" }
          injections := [.field ⟨"settings", .configSection, "config"⟩] }
        constructor := some (.done (.service { slots := [("settings", .configSection)] })) }]
  | _ => []

theorem claimed_writeOnce : claimed.WriteOnce := by
  intro category candidate listed made constructed
  have hookless : ∀ plugin : Plugin, plugin.hook? = (fun _ => none) → plugin.WriteOnce :=
    fun plugin => Plugin.writeOnce_of_hookless
  cases category with
  | provider =>
      rw [List.mem_singleton.mp listed] at constructed
      cases constructed
      refine ⟨hookless _ rfl, fun face same => ?_⟩
      cases same
      exact ⟨hookless _ rfl, fun _ memory => .refl memory⟩
  | service =>
      rw [List.mem_singleton.mp listed] at constructed
      cases constructed
      exact ⟨hookless _ rfl, fun face same => by cases same⟩
  | _ => cases listed

/-- The vault holds its own section, and the other provider of the name is nowhere. -/
theorem assemble_private_of_claimed :
    let sections : Sections := [("vault", [("key", .text "v")]), ("other", [("key", .text "o")])]
    claimed.Distinct ∧ claimed.WriteOnce ∧ sections.enables Builtin.config = true ∧
      ∃ plugin, plugin.descriptor.name = "vault" ∧
        Private claimed sections {} ∧ held? claimed sections {} plugin "settings" =
          some (.settings [("key", .text "v")]) := by
  intro sections
  have distinct : claimed.Distinct := by
    unfold Discovery.Distinct
    decide
  have enabled : sections.enables Builtin.config = true := by decide
  obtain ⟨isPrivate, -⟩ := assemble_private claimed sections {} distinct claimed_writeOnce enabled
  have waiting : (Assembly.readied claimed { sections := sections, world := {} }).pending.map
      (fun plugin => (plugin.descriptor.name, plugin.descriptor.fields)) =
        [("vault", [⟨"settings", .configSection, "config"⟩])] := by decide +kernel
  have quiet : (create claimed sections {}).assemble.1.report.failures.map
      InjectionFailure.plugin = [] := by decide +kernel
  obtain ⟨plugin, only, same⟩ := List.map_eq_singleton_iff.mp waiting
  obtain ⟨named, fields⟩ := Prod.mk.inj same
  have received : Received claimed sections {} plugin ⟨"settings", .configSection, "config"⟩ := by
    have waits : plugin ∈
        (Assembly.readied claimed { sections := sections, world := {} }).pending := by
      rw [only]
      exact List.mem_singleton_self plugin
    rcases isPrivate.given plugin waits with ⟨failure, reported, -⟩ | all
    · rw [List.map_eq_nil_iff.mp quiet] at reported
      cases reported
    · exact all _ (by rw [fields]; exact List.mem_singleton_self _)
  have held := isPrivate.own plugin _ received rfl
  rw [named] at held
  exact ⟨distinct, claimed_writeOnce, enabled, plugin, named, isPrivate, held⟩

end Registry

end PluginHost
