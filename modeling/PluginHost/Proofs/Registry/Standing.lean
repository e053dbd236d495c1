import PluginHost.Proofs.Graph.LoadOrder
import PluginHost.Proofs.Registry.Stages

/-
This file says which plugins stand in the registry at the end of an assembly, and in what order
those of them that want something injected have waited for it.
-/

namespace PluginHost

open Factory (offer offer? admissible sortByPriority entry)

variable {ι : Type}

def Pending.className (pending : Pending) : String := pending.descriptor.className

/-- Only plugins with injection points wait. -/
def Pending.wants (pending : Pending) : Bool := !pending.descriptor.injections.isEmpty

def Built.pending (kind : Kind ι) (built : Built ι) : Pending :=
  ⟨built.descriptor, built.record.erase kind⟩

theorem Built.filterMap_waiting? (kind : Kind ι) (built : List (Built ι)) :
    built.filterMap (waiting? kind) = (built.map (pending kind)).filter Pending.wants := by
  induction built with
  | nil => rfl
  | cons plugin rest ih =>
      rw [List.map_cons, List.filter_cons, List.filterMap_cons, ih, waiting?, Pending.wants, pending]
      cases plugin.descriptor.injections.isEmpty <;> rfl

theorem Built.classes_pending (kind : Kind ι) (built : List (Built ι)) :
    (built.map (pending kind)).map Pending.className = built.map Built.className := by
  rw [List.map_map]
  rfl

theorem Built.entries_pending (kind : Kind ι) (built : List (Built ι)) :
    built.map (entry kind) =
      (built.map (pending kind)).map fun pending => (pending.className, pending.record) := by
  rw [List.map_map]
  rfl

/-- What is picked out of a list keeps the order and the names. -/
theorem map_filterMap_sublist {α β γ : Type} {pick : α → Option β} {before : α → γ}
    {after : β → γ} (agree : ∀ x y, pick x = some y → after y = before x) (list : List α) :
    ((list.filterMap pick).map after).Sublist (list.map before) := by
  induction list with
  | nil => exact List.Sublist.refl []
  | cons first rest ih =>
      rw [List.filterMap_cons, List.map_cons]
      cases picked : pick first with
      | none => exact ih.cons _
      | some value =>
          rw [List.map_cons, agree first value picked]
          exact ih.cons_cons _

namespace Discovery

variable {discovery : Discovery} {sections : Sections}

def classes (discovery : Discovery) (category : Category) : List String :=
  (discovery category).map Candidate.className

/-- The descriptor is one of the host's own or is listed. -/
def Knows (discovery : Discovery) (descriptor : Descriptor) : Prop :=
  descriptor ∈ Builtin.descriptors ∨
    ∃ category, ∃ candidate ∈ discovery category, candidate.descriptor = descriptor

theorem Distinct.classes (distinct : discovery.Distinct) :
    (Builtin.descriptors.map Descriptor.className ++ discovery.classes .provider ++
      discovery.classes .initializer ++ discovery.classes .authMechanism ++
      discovery.classes .authorizer ++ discovery.classes .tokenManager ++
      discovery.classes .authenticator ++ discovery.classes .interceptor ++
      discovery.classes .service).Nodup := by
  have all := distinct
  simp only [Distinct, Category.bootOrder, List.flatMap_cons, List.flatMap_nil, List.append_nil,
    List.map_append, List.map_map, ← List.append_assoc] at all
  exact all

theorem tried_classes (discovery : Discovery) :
    (discovery.tried.map Candidate.className).Subperm
      (Builtin.descriptors.map Descriptor.className ++ discovery.classes .provider) := by
  have sorted : discovery.tried.Perm
      (Builtin.candidates ++ admissible Kind.providers .always discovery.providers) :=
    (Factory.sortByPriority_inPriorityOrder _).perm.append_left _
  have part : (admissible Kind.providers .always discovery.providers).Sublist
      (discovery .provider) := List.filter_sublist.trans List.filter_sublist
  have within := ((List.Sublist.refl Builtin.candidates).append part).map Candidate.className
  rw [List.map_append] at within
  exact (sorted.map _).subperm.trans within.subperm

theorem admitted_classes (discovery : Discovery) (sections : Sections) (kind : Kind ι) :
    ((discovery.admitted sections kind).map Candidate.className).Subperm
      (discovery.classes kind.category) := by
  have sorted := (Factory.sortByPriority_inPriorityOrder ((discovery kind.category).filter
    fun candidate => candidate.descriptor.category == kind.category &&
      Precondition.holds (discovery.valid sections) sections candidate.descriptor)).perm
  exact (sorted.map _).subperm.trans (List.filter_sublist.map Candidate.className).subperm

end Discovery

theorem Collected.classes {discovery : Discovery} {sections : Sections} {kind : Kind ι}
    {built : List (Built ι)} {records : List (Record (Live ι))}
    (collected : Collected discovery sections kind built records) :
    (built.map Built.className).Subperm (discovery.classes kind.category) :=
  (BuiltFrom.classes collected.offered).subperm.trans
    (discovery.admitted_classes sections kind)

/-- A plugin stays as what the constructor of its candidate has made. -/
structure BornOf (sections : Sections) (candidate : Candidate) (pending : Pending) : Prop where
  descriptor : pending.descriptor = candidate.descriptor
  made : ∃ made, candidate.constructor = some (.done made) ∧
    pending.record.plugin.face = made.plugin
  record : pending.record.map Live.face =
    Record.make candidate.descriptor sections pending.record.plugin.face

theorem BuiltFrom.bornOf {sections : Sections} {kind : Kind ι} {candidate : Candidate}
    {plugin : Built ι} (faithful : kind.Faithful)
    (yielded : BuiltFrom sections kind candidate plugin) :
    BornOf sections candidate (plugin.pending kind) where
  descriptor := yielded.descriptor
  made := by
    obtain ⟨made, constructed, chosen⟩ := Kind.face?_spec yielded.face
    exact ⟨made, (Candidate.made?_eq_some_iff.mp constructed).2, faithful made _ chosen⟩
  record := congrArg (Record.map kind.plugin) yielded.record

theorem Collected.born {discovery : Discovery} {sections : Sections} {kind : Kind ι}
    {built : List (Built ι)} {records : List (Record (Live ι))} (faithful : kind.Faithful)
    (collected : Collected discovery sections kind built records) {pending : Pending}
    (stands : pending ∈ built.map (Built.pending kind)) :
    ∃ candidate, (candidate ∈ Builtin.candidates ∨ ∃ category, candidate ∈ discovery category) ∧
      BornOf sections candidate pending := by
  obtain ⟨plugin, member, rfl⟩ := List.mem_map.mp stands
  obtain ⟨candidate, admitted, yielded⟩ := BuiltFrom.exists_candidate collected.offered member
  exact ⟨candidate, .inr ⟨kind.category, (Discovery.mem_admitted.mp admitted).1⟩,
    yielded.bornOf faithful⟩

/-- The category of what waits is that of the plugins that were built. -/
theorem Collected.category {discovery : Discovery} {sections : Sections} {kind : Kind ι}
    {built : List (Built ι)} {records : List (Record (Live ι))}
    (collected : Collected discovery sections kind built records) {pending : Pending}
    (waits : pending ∈ built.filterMap (Built.waiting? kind)) :
    pending.descriptor.category = kind.category := by
  obtain ⟨candidate, yielded, waitsFor⟩ := collected.waitsFor waits
  rw [waitsFor.descriptor]
  exact (Discovery.yielded_accepted kind yielded).category

namespace Assembly

/-- All the plugins that stay, in boot order. -/
def Stages.standing (stages : Stages) : List Pending :=
  stages.providers.map (Built.pending Kind.providers) ++
    stages.initializers.map (Built.pending Kind.initializers) ++
    stages.authMechanisms.map (Built.pending Kind.authMechanisms) ++
    stages.authorizers.map (Built.pending Kind.authorizers) ++
    stages.tokenManagers.map (Built.pending Kind.tokenManagers) ++
    stages.authenticators.map (Built.pending Kind.authenticators) ++
    stages.interceptors.map (Built.pending Kind.interceptors) ++
    stages.services.map (Built.pending Kind.services)

/-- The plugins of the other categories that wait. -/
def Stages.others (stages : Stages) : List Pending :=
  stages.initializers.filterMap (Built.waiting? Kind.initializers) ++
    (stages.authMechanisms.filterMap (Built.waiting? Kind.authMechanisms) ++
    (stages.authorizers.filterMap (Built.waiting? Kind.authorizers) ++
    (stages.tokenManagers.filterMap (Built.waiting? Kind.tokenManagers) ++
    (stages.authenticators.filterMap (Built.waiting? Kind.authenticators) ++
    (stages.interceptors.filterMap (Built.waiting? Kind.interceptors) ++
    stages.services.filterMap (Built.waiting? Kind.services))))))

theorem Stages.entries_eq (stages : Stages) :
    stages.entries = stages.standing.map fun pending => (pending.className, pending.record) := by
  simp only [entries, standing, List.map_append, Built.entries_pending]

theorem loadOrder_classes {discovery : Discovery} (distinct : discovery.Distinct)
    (sections : Sections) :
    ((discovery.validation sections).loadOrder.map Descriptor.className).Nodup := by
  have perm := Graph.validate_loadOrder_perm (Graph.ofProviders_distinct
    discovery.providerDescriptors sections (discovery.types sections))
  have within := Graph.ofProviders_valid_sublist discovery.providerDescriptors sections
    (discovery.types sections)
  exact (perm.map _).nodup_iff.mpr (distinct.providerDescriptors.sublist (within.map _))

namespace Assembled

variable {discovery : Discovery} {sections : Sections} {stages : Stages} {result : Result}
  (assembled : Assembled discovery sections stages result)
include assembled

theorem provider_classes : (stages.providers.map Built.className).Subperm
    (Builtin.descriptors.map Descriptor.className ++ discovery.classes .provider) := by
  have kept : ((discovery.kept sections).map Candidate.className).Sublist
      (discovery.tried.map Candidate.className) := List.filter_sublist.map _
  exact ((BuiltFrom.classes assembled.offered).trans kept).subperm.trans discovery.tried_classes

/-- The plugins that stay are told apart by their classes. -/
theorem standing_classes (distinct : discovery.Distinct) :
    (stages.standing.map Pending.className).Nodup := by
  obtain ⟨tokenManagers, fourth, -⟩ := assembled.tokenManagers
  have all := (((((((assembled.provider_classes.append assembled.initializers.classes).append
    assembled.authMechanisms.classes).append assembled.authorizers.classes).append
    fourth.classes).append assembled.authenticators.classes).append
    assembled.interceptors.classes).append assembled.services.classes)
  simp only [Stages.standing, List.map_append, Built.classes_pending]
  obtain ⟨reordered, perm, within⟩ := all
  exact perm.nodup_iff.mp (distinct.classes.sublist within)

/-- Whatever stays was made from what is listed, or is the host's own. -/
theorem standing_born (distinct : discovery.Distinct) {pending : Pending}
    (stands : pending ∈ stages.standing) :
    ∃ candidate, (candidate ∈ Builtin.candidates ∨ ∃ category, candidate ∈ discovery category) ∧
      BornOf sections candidate pending := by
  obtain ⟨tokenManagers, fourth, -⟩ := assembled.tokenManagers
  obtain ⟨faithful0, faithful1, faithful2, faithful3, faithful4, faithful5, faithful6,
    faithful7⟩ := Kind.all_faithful
  simp only [Stages.standing, List.mem_append] at stands
  rcases stands with (((((((zeroth | first) | second) | third) | fourthStands) | fifth) | sixth) |
    seventh)
  · obtain ⟨plugin, member, rfl⟩ := List.mem_map.mp zeroth
    obtain ⟨candidate, kept, yielded⟩ := assembled.kept_of_provider member
    refine ⟨candidate, ?_, yielded.bornOf faithful0⟩
    exact (distinct.kept_accepted kept).listed.imp_right fun listed => ⟨.provider, listed⟩
  · exact assembled.initializers.born faithful1 first
  · exact assembled.authMechanisms.born faithful2 second
  · exact assembled.authorizers.born faithful3 third
  · exact fourth.born faithful4 fourthStands
  · exact assembled.authenticators.born faithful5 fifth
  · exact assembled.interceptors.born faithful6 sixth
  · exact assembled.services.born faithful7 seventh

theorem standing_known (distinct : discovery.Distinct) {pending : Pending}
    (stands : pending ∈ stages.standing) : discovery.Knows pending.descriptor := by
  obtain ⟨candidate, origin, born⟩ := assembled.standing_born distinct stands
  rw [born.descriptor]
  rcases origin with own | ⟨category, listed⟩
  · exact .inl (List.mem_map_of_mem (f := Candidate.descriptor) own)
  · exact .inr ⟨category, candidate, listed, rfl⟩

/-- A provider that stays is valid. -/
theorem provider_valid (distinct : discovery.Distinct) {plugin : Built Provider}
    (member : plugin ∈ stages.providers) :
    plugin.descriptor ∈ (discovery.validation sections).valid := by
  obtain ⟨candidate, kept, yielded⟩ := assembled.kept_of_provider member
  rw [yielded.descriptor]
  exact (distinct.mem_kept.mp kept).2

/-- The providers that wait are those that stay and have injection points. -/
theorem providers_waiting (distinct : discovery.Distinct) :
    ((discovery.validation sections).loadOrder.filterMap (Factory.waiting?
        (Table.ofEntries (stages.providers.map (entry Kind.providers))))).Perm
      ((stages.providers.map (Built.pending Kind.providers)).filter Pending.wants) := by
  have builtOnce : (stages.providers.map Built.className).Nodup :=
    distinct.tried.sublist ((BuiltFrom.classes assembled.offered).trans (List.filter_sublist.map _))
  have entriesOnce : ((stages.providers.map (entry Kind.providers)).map Prod.fst).Nodup := by
    rw [List.map_map]
    exact builtOnce
  have ordered := Graph.validate_loadOrder_perm (Graph.ofProviders_distinct
    discovery.providerDescriptors sections (discovery.types sections))
  have agree : ∀ descriptor pending, Factory.waiting?
      (Table.ofEntries (stages.providers.map (entry Kind.providers))) descriptor = some pending →
        pending.className = descriptor.className := by
    intro descriptor pending waits
    obtain ⟨-, record, -, rfl⟩ := Factory.waiting?_eq_some_iff.mp waits
    rfl
  have waitingOnce := List.Nodup.of_map _
    ((loadOrder_classes distinct sections).sublist (map_filterMap_sublist agree _))
  have standingOnce : ((stages.providers.map (Built.pending Kind.providers)).filter
      Pending.wants).Nodup := by
    refine (List.Nodup.of_map Pending.className ?_).sublist List.filter_sublist
    rw [Built.classes_pending]
    exact builtOnce
  refine (List.perm_ext_iff_of_nodup waitingOnce standingOnce).mpr fun pending => ?_
  rw [List.mem_filterMap, List.mem_filter, List.mem_map]
  constructor
  · rintro ⟨descriptor, descriptorIn, waits⟩
    obtain ⟨wanting, record, found, rfl⟩ := Factory.waiting?_eq_some_iff.mp waits
    obtain ⟨plugin, pluginIn, same⟩ :=
      List.mem_map.mp ((Table.find?_ofEntries_iff entriesOnce).mp found)
    obtain ⟨sameClass, rfl⟩ := Prod.mk.inj same
    obtain rfl := distinct.eq_of_className
      (Discovery.mem_validated (assembled.provider_valid distinct pluginIn))
      (Discovery.mem_validated (ordered.mem_iff.mp descriptorIn)) sameClass
    exact ⟨⟨plugin, pluginIn, rfl⟩, by rw [Pending.wants, wanting]; rfl⟩
  · rintro ⟨⟨plugin, pluginIn, rfl⟩, wants⟩
    refine ⟨plugin.descriptor, ordered.mem_iff.mpr (assembled.provider_valid distinct pluginIn),
      Factory.waiting?_eq_some_iff.mpr ⟨by rwa [Pending.wants, Bool.not_eq_true'] at wants, _, ?_,
        rfl⟩⟩
    exact (Table.find?_ofEntries_iff entriesOnce).mpr (List.mem_map_of_mem pluginIn)

/-- Whatever waits stays and has injection points, and nothing else waits. -/
theorem waiting_perm (distinct : discovery.Distinct) :
    (stages.pending (discovery.validation sections).loadOrder).Perm
      (stages.standing.filter Pending.wants) := by
  have providers := assembled.providers_waiting distinct
  simp only [Stages.pending, Stages.standing, Built.filterMap_waiting?, List.filter_append,
    List.append_assoc]
  exact providers.append_right _

/-- What waits behind the providers belongs to another category. -/
theorem others_category {pending : Pending} (waits : pending ∈ stages.others) :
    pending.descriptor.category ≠ .provider := by
  obtain ⟨tokenManagers, fourth, -⟩ := assembled.tokenManagers
  simp only [Stages.others, List.mem_append] at waits
  rcases waits with first | second | third | fourthWaits | fifth | sixth | seventh
  · exact (assembled.initializers.category first).trans_ne (by decide)
  · exact (assembled.authMechanisms.category second).trans_ne (by decide)
  · exact (assembled.authorizers.category third).trans_ne (by decide)
  · exact (fourth.category fourthWaits).trans_ne (by decide)
  · exact (assembled.authenticators.category fifth).trans_ne (by decide)
  · exact (assembled.interceptors.category sixth).trans_ne (by decide)
  · exact (assembled.services.category seventh).trans_ne (by decide)

/-- No plugin waits in front of a provider that it uses. -/
theorem waiting_ahead :
    let waiting := stages.pending (discovery.validation sections).loadOrder
    (waiting.Pairwise fun earlier later => later.descriptor.category = .provider →
        ¬ earlier.descriptor.Uses later.descriptor) ∧
      ∀ pending ∈ waiting, pending.descriptor.category = .provider →
        ¬ pending.descriptor.Uses pending.descriptor := by
  intro waiting
  obtain ⟨pairs, selves⟩ := Graph.validate_loadOrder_ahead (Graph.ofProviders_distinct
    discovery.providerDescriptors sections (discovery.types sections))
  have same {descriptor : Descriptor} {pending : Pending} (waits : Factory.waiting?
      (Table.ofEntries (stages.providers.map (entry Kind.providers))) descriptor = some pending) :
      pending.descriptor = descriptor := by
    obtain ⟨-, record, -, rfl⟩ := Factory.waiting?_eq_some_iff.mp waits
    rfl
  have split : waiting = (discovery.validation sections).loadOrder.filterMap (Factory.waiting?
      (Table.ofEntries (stages.providers.map (entry Kind.providers)))) ++ stages.others := by
    simp only [waiting, Stages.pending, Stages.others, List.append_assoc]
  rw [split]
  constructor
  · refine List.pairwise_append.mpr ⟨?_, ?_, ?_⟩
    · refine List.pairwise_filterMap.mpr (pairs.imp ?_)
      intro earlier later free first firstWaits second secondWaits _
      rwa [same firstWaits, same secondWaits]
    · exact List.pairwise_of_forall_mem_list fun _ _ later laterIn provides =>
        absurd provides (assembled.others_category laterIn)
    · exact fun _ _ later laterIn provides => absurd provides (assembled.others_category laterIn)
  · intro pending waits provides
    rcases List.mem_append.mp waits with first | other
    · obtain ⟨descriptor, ordered, picked⟩ := List.mem_filterMap.mp first
      rw [same picked]
      exact selves descriptor ordered
    · exact absurd provides (assembled.others_category other)

end Assembled

/-- The table of records holds the plugins that stay. -/
theorem Recorded.record?_iff {discovery : Discovery} {sections : Sections} {world : World}
    {stages : Stages} {result : Result}
    (recorded : Recorded discovery sections world stages result)
    (classes : (stages.standing.map Pending.className).Nodup) (className : String)
    (record : Record (Live Plugin)) :
    result.factory.record? className = some record ↔
      ∃ pending ∈ stages.standing, pending.className = className ∧ pending.record = record := by
  have once : (stages.entries.map Prod.fst).Nodup := by
    rw [stages.entries_eq, List.map_map]
    exact classes
  rw [Factory.record?, recorded.table, Table.find?_ofEntries_iff once, stages.entries_eq,
    List.mem_map]
  simp only [Prod.mk.injEq]

end Assembly

end PluginHost
