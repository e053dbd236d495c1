import PluginHost.Proofs.Registry.Agreement
import PluginHost.Proofs.Registry.Calling
import PluginHost.Proofs.Registry.Standing
import PluginHost.Proofs.Sessions

/-
This file proves in what order an assembly calls into plugin code. All plugins are built before the
first of them is injected, and a provider is injected before the plugins that use it.
-/

namespace PluginHost

open Factory (InPriorityOrder sortByPriority admissible sortByPriority_inPriorityOrder)

variable {ι : Type}

/-- A candidate that the host tries to construct. Providers are tried under any name that is not
reserved, and the other plugins when the valid providers serve them. -/
structure Summoned (valid : ValidProviders) (sections : Sections) (category : Category)
    (candidate : Candidate) : Prop where
  belongs : candidate.descriptor.category = category
  enabled : sections.enables candidate.descriptor = true
  compatible : isCompatible candidate.descriptor.apiVersion = true
  constructible : candidate.constructor.isSome = true
  admitted : if category = .provider then Builtin.isReserved candidate.name = false
    else Precondition.holds valid sections candidate.descriptor = true

theorem summoned_iff {valid : ValidProviders} {sections : Sections} {category : Category}
    {candidate : Candidate} :
    Summoned valid sections category candidate ↔
      (candidate.descriptor.category = category ∧ if category = .provider then
        Builtin.isReserved candidate.name = false
        else Precondition.holds valid sections candidate.descriptor = true) ∧
        sections.summons candidate = true := by
  rw [Sections.summons, Bool.and_eq_true, Bool.and_eq_true]
  constructor
  · rintro ⟨belongs, enabled, compatible, constructible, admitted⟩
    exact ⟨⟨belongs, admitted⟩, ⟨enabled, compatible⟩, constructible⟩
  · rintro ⟨⟨belongs, admitted⟩, ⟨enabled, compatible⟩, constructible⟩
    exact ⟨belongs, enabled, compatible, constructible, admitted⟩

namespace Discovery

variable {discovery : Discovery} {sections : Sections}

open Classical in
theorem called_of_ne (discovery : Discovery) (sections : Sections) (kind : Kind ι)
    (other : kind.category ≠ .provider) :
    InPriorityOrder ((discovery kind.category).filter fun candidate =>
        decide (Summoned (discovery.valid sections) sections kind.category candidate))
      ((discovery.admitted sections kind).filter sections.summons) := by
  have sorted := (sortByPriority_inPriorityOrder ((discovery kind.category).filter
    fun candidate => candidate.descriptor.category == kind.category &&
      Precondition.holds (discovery.valid sections) sections candidate.descriptor)).filter
        sections.summons
  rw [List.filter_filter] at sorted
  have same : (discovery kind.category).filter (fun candidate =>
      decide (Summoned (discovery.valid sections) sections kind.category candidate)) =
        (discovery kind.category).filter fun candidate => sections.summons candidate &&
          (candidate.descriptor.category == kind.category &&
            Precondition.holds (discovery.valid sections) sections candidate.descriptor) := by
    refine List.filter_congr fun candidate _ => ?_
    rw [Bool.eq_iff_iff, decide_eq_true_eq, summoned_iff, if_neg other, Bool.and_eq_true,
      Bool.and_eq_true, beq_iff_eq, and_comm]
  rw [same]
  exact sorted

open Classical in
/-- The constructors of a category are called by ascending priority. -/
theorem called_order (discovery : Discovery) (sections : Sections) (category : Category) :
    InPriorityOrder ((discovery category).filter fun candidate =>
        decide (Summoned (discovery.valid sections) sections category candidate))
      (discovery.called sections category) := by
  cases category with
  | provider =>
      have sorted := (sortByPriority_inPriorityOrder
        (admissible Kind.providers .always discovery.providers)).filter sections.summons
      rw [admissible, providers, List.filter_filter, List.filter_filter] at sorted
      have same : (discovery .provider).filter (fun candidate =>
          decide (Summoned (discovery.valid sections) sections .provider candidate)) =
            (discovery .provider).filter fun candidate => sections.summons candidate &&
              (candidate.descriptor.category == .provider && true) &&
                !Builtin.isReserved candidate.name := by
        refine List.filter_congr fun candidate _ => ?_
        rw [Bool.eq_iff_iff, decide_eq_true_eq, summoned_iff, if_pos rfl, Bool.and_eq_true,
          Bool.and_eq_true, Bool.and_true, beq_iff_eq, Bool.not_eq_true', and_comm, and_assoc]
      rw [same]
      exact sorted
  | initializer => exact called_of_ne discovery sections Kind.initializers (by decide)
  | authMechanism => exact called_of_ne discovery sections Kind.authMechanisms (by decide)
  | authorizer => exact called_of_ne discovery sections Kind.authorizers (by decide)
  | tokenManager => exact called_of_ne discovery sections Kind.tokenManagers (by decide)
  | authenticator => exact called_of_ne discovery sections Kind.authenticators (by decide)
  | interceptor => exact called_of_ne discovery sections Kind.interceptors (by decide)
  | service => exact called_of_ne discovery sections Kind.services (by decide)

end Discovery

namespace Assembly

open Injection (Session)

/-- The calls of an assembly into plugin code: those that are made while the plugins are built, and
then one session for each plugin that is injected. -/
structure Course where
  building : List JournalEntry
  sessions : List Session

def Course.calls (course : Course) : List JournalEntry :=
  course.building ++ course.sessions.flatMap Session.calls

open Classical in
/-- What is promised of the calls of an assembly with its result. -/
structure Course.Orderly (discovery : Discovery) (sections : Sections) (result : Result)
    (course : Course) : Prop where
  building : ∀ entry ∈ course.building, entry.isConstruction = true ∨ entry.isTyping = true
  constructors : ∃ called : Category → List Candidate,
    (∀ category, InPriorityOrder ((discovery category).filter fun candidate =>
      decide (Summoned result.assembly.valid sections category candidate)) (called category)) ∧
    course.building.filter JournalEntry.isConstruction =
      Category.bootOrder.flatMap fun category => (called category).map Candidate.birth
  runs : ∀ session ∈ course.sessions, session.Runs result.assembly.providers
  once : ∃ standing : List Pending, (standing.map Pending.className).Nodup ∧
    (∀ className record, result.factory.record? className = some record ↔
      ∃ pending ∈ standing, pending.className = className ∧ pending.record = record) ∧
    (∀ pending ∈ standing, discovery.Knows pending.descriptor) ∧
    (course.sessions.map Session.pending).Perm (standing.filter Pending.wants)
  ahead : ∀ before session after, course.sessions = before ++ session :: after →
    ∀ entry ∈ session.calls, ∀ name consumer, entry.call = .produce name consumer →
      ∃ provider ∈ result.assembly.providers, provider.name = name ∧
        session.pending.record.name = consumer ∧
        ∀ other ∈ course.sessions, other.pending.className = provider.implementation →
          other ∈ before

namespace Assembled

variable {discovery : Discovery} {sections : Sections} {stages : Stages} {result : Result}

/-- A plugin that waits under the class of a provider is that provider. -/
theorem pending_of_provider (assembled : Assembled discovery sections stages result)
    (distinct : discovery.Distinct) {provider : Record (Live Provider)}
    (member : provider ∈ result.assembly.providers) {pending : Pending}
    (waits : pending ∈ stages.pending (discovery.validation sections).loadOrder)
    (same : pending.className = provider.implementation) :
    pending.descriptor.category = .provider ∧ pending.descriptor.name = provider.name := by
  rw [assembled.providers] at member
  obtain ⟨plugin, pluginIn, rfl⟩ := List.mem_map.mp member
  obtain ⟨candidate, kept, yielded⟩ := assembled.kept_of_provider pluginIn
  have stands : Built.pending Kind.providers plugin ∈ stages.standing := by
    simp only [Stages.standing, List.mem_append]
    simp only [List.mem_map_of_mem pluginIn, true_or]
  have alsoStands := List.mem_of_mem_filter ((assembled.waiting_perm distinct).mem_iff.mp waits)
  have sameClass : pending.className = (Built.pending Kind.providers plugin).className := by
    rw [same, yielded.implementation, ← yielded.descriptor]
    rfl
  obtain rfl := List.inj_on_of_nodup_map (assembled.standing_classes distinct) alsoStands stands
    sameClass
  rw [Built.pending, yielded.descriptor, yielded.name]
  exact ⟨(distinct.kept_accepted kept).category, rfl⟩

/-- When a provider is asked for a value, its own session is over. -/
theorem session_ahead (assembled : Assembled discovery sections stages result)
    (distinct : discovery.Distinct) {sessions : List Session}
    (waited : sessions.map Session.pending =
      stages.pending (discovery.validation sections).loadOrder)
    {before after : List Session} {session : Session}
    (split : sessions = before ++ session :: after) {field : FieldInjection}
    (declared : field ∈ session.pending.descriptor.fields) {provider : Record (Live Provider)}
    (found : Injection.provider? result.assembly.providers field.provider = some provider)
    {other : Session} (member : other ∈ sessions)
    (same : other.pending.className = provider.implementation) : other ∈ before := by
  obtain ⟨providerIn, named⟩ := Injection.provider?_spec found
  have waits (any : Session) (anyIn : any ∈ sessions) :
      any.pending ∈ stages.pending (discovery.validation sections).loadOrder := by
    rw [← waited]
    exact List.mem_map_of_mem anyIn
  obtain ⟨provides, otherNamed⟩ :=
    assembled.pending_of_provider distinct providerIn (waits other member) same
  have uses : session.pending.descriptor.Uses other.pending.descriptor :=
    ⟨field, declared, by rw [otherNamed, named]⟩
  obtain ⟨pairs, selves⟩ := assembled.waiting_ahead
  rw [← waited] at pairs selves
  rw [split] at member pairs
  rcases List.mem_append.mp member with earlier | rest
  · exact earlier
  rw [List.map_append, List.map_cons, List.pairwise_append, List.pairwise_cons] at pairs
  rcases List.mem_cons.mp rest with rfl | later
  · refine absurd uses (selves _ (List.mem_map_of_mem ?_) provides)
    rw [split]
    exact List.mem_append_right _ List.mem_cons_self
  · exact absurd uses (pairs.2.1.1 _ (List.mem_map_of_mem later) provides)

end Assembled

/-- An assembly calls into plugin code in order. -/
theorem run_course {discovery : Discovery} (distinct : discovery.Distinct) (sections : Sections)
    (world : World) :
    let result := run discovery { sections := sections, world := world }
    ∃ course : Course, course.Orderly discovery sections result ∧
      result.factory.world.journal = world.journal ++ course.calls := by
  intro result
  obtain ⟨stages, assembled, recorded⟩ := run_staged distinct sections world
  obtain ⟨between, ⟨building, built, constructed, births⟩, journal⟩ := recorded.journal
  obtain ⟨sessions, waited, runs, injected⟩ := Injection.serveAll_sessions
    result.assembly.providers (stages.pending (discovery.validation sections).loadOrder) between
  have classes := assembled.standing_classes distinct
  refine ⟨⟨building, sessions⟩, ?_, ?_⟩
  · refine ⟨births, ⟨discovery.called sections, ?_, constructed⟩, runs,
      ⟨stages.standing, classes, recorded.record?_iff classes,
        fun pending stands => assembled.standing_known distinct stands,
        waited ▸ assembled.waiting_perm distinct⟩, ?_⟩
    · rw [assembled.valid]
      exact discovery.called_order sections
    · intro before session after split entry called name consumer produced
      change sessions = before ++ session :: after at split
      have member : session ∈ sessions := by
        rw [split]
        exact List.mem_append_right _ List.mem_cons_self
      obtain ⟨-, -, serves⟩ := runs session member
      have asked := serves entry called
      rw [produced] at asked
      cases asked with
      | @produce field provider declared found =>
          exact ⟨provider, (Injection.provider?_spec found).1, rfl, rfl, fun other otherIn same =>
            assembled.session_ahead distinct waited split declared found otherIn same⟩
  · rw [journal, injected, built, List.append_assoc]
    rfl

end Assembly

namespace Registry

/-- However the calls of a host follow one another, the first one that needs an assembly makes it,
and all of them leave the same calls into plugin code behind, once and in order. After it only
contracts are read. The configuration and the size of the cache are read without an assembly. -/
theorem called_once (discovery : Discovery) (sections : Sections) (world : World)
    (distinct : discovery.Distinct) :
    let start := create discovery sections world
    let result := Assembly.run discovery start.factory
    ∃ course : Assembly.Course, course.Orderly discovery sections result ∧
      (∀ calls : List PublicCall, (∃ call ∈ calls, call.assembles = true) →
        (start.called calls).assembly = some result.assembly ∧
          ∃ later, (start.called calls).world.journal =
              world.journal ++ course.calls ++ later ∧
            ∀ entry ∈ later, entry.call.IsContract) ∧
      ∀ calls : List PublicCall, (∀ call ∈ calls, call.assembles = false) →
        start.called calls = start := by
  intro start result
  obtain ⟨course, orderly, journal⟩ := Assembly.run_course distinct sections world
  refine ⟨course, orderly, fun calls some => ?_, fun calls idle => called_idle idle start⟩
  obtain ⟨stays, later, added, contracts⟩ := called_assembled some start
  refine ⟨stays, later, ?_, contracts⟩
  rw [added, ← journal]
  rfl

/-- A listing with a provider that has a hook, and a service that takes a count from it. -/
def pumped : Discovery
  | .provider => [{
      descriptor := {
        category := .provider
        className := "Pump"
        registration := { name := "pump" }
        injections := [.method ⟨"warm", 1⟩] }
      constructor := some (.done (.provider {
        hook? := fun _ => some fun memory => ⟨.done (), memory, []⟩
        producedType := .ok ⟨"Count"⟩
        produce := fun _ memory => ⟨.done ⟨⟨"Count"⟩, .count 1⟩, memory, []⟩ })) }]
  | .service => [{
      descriptor := {
        category := .service
        className := "Tap"
        registration := { name := "tap" }
        injections := [.field ⟨"limit", ⟨"Count"⟩, "pump"⟩] }
      constructor := some (.done (.service { slots := [("limit", ⟨"Count"⟩)] })) }]
  | _ => []

/-- Both constructors run first, then the hook of the provider, and then the provider is asked. -/
theorem called_once_of_pumped :
    let start := create pumped [] {}
    let calls : List PublicCall :=
      [.cachedViews, .addService (plainRecord "api"), .settled, .services,
        .interceptorsFor none .response]
    let journal := (start.called calls).world.journal
    pumped.Distinct ∧ (∃ call ∈ calls, call.assembles = true) ∧
      (journal.filterMap fun entry =>
        match entry.call with
        | .construct plugin => some ("construct", plugin)
        | .invoke plugin _ => some ("invoke", plugin)
        | .produce provider consumer => some (provider, consumer)
        | _ => none) =
          [("construct", "pump"), ("construct", "tap"), ("invoke", "pump"), ("pump", "tap")] ∧
      ∃ course : Assembly.Course, course.Orderly pumped [] (Assembly.run pumped start.factory) ∧
        ∃ later, journal = course.calls ++ later ∧ ∀ entry ∈ later, entry.call.IsContract := by
  intro start calls journal
  have distinct : pumped.Distinct := by
    unfold Discovery.Distinct
    decide
  have some : ∃ call ∈ calls, call.assembles = true :=
    ⟨.settled, by simp only [calls, List.mem_cons, true_or, or_true], rfl⟩
  obtain ⟨course, orderly, made, -⟩ := called_once pumped [] {} distinct
  obtain ⟨-, later, grown, contracts⟩ := made calls some
  exact ⟨distinct, some, by decide +kernel, course, orderly, later, grown, contracts⟩

/-- A host that asks for the configuration and for the size of the cache has no assembly yet. -/
theorem not_assembled_of_pumped :
    let asked := (create pumped [] {}).called [.config, .cachedViews]
    asked.assembly.isNone = true ∧ asked.world.journal.length = 0 ∧
      asked.assembled.world.journal.length = 8 := by
  decide +kernel

end Registry

end PluginHost
