import PluginHost.Proofs.Registry.Standing
import PluginHost.Proofs.Twins
import PluginHost.Registry.Basic

/-
This file compares what can be seen of two assemblies. The numbers of the instances cannot be seen,
so two assemblies look alike when their categories have built alike.
-/

namespace PluginHost

open Factory (offer entry waiting?)

variable {ι : Type}

/-- A plugin as it can be seen: its record without the number of the instance, and what the
instance remembers. -/
abbrev Seen (ι : Type) := Record ι × Memory

def World.see (world : World) (record : Record (Live ι)) : Seen ι :=
  (record.map Live.face, world.memory record.plugin.id)

/-- What can be seen of an assembly, but for its findings and its log. Every plugin that stays is
seen under its class. -/
structure Sight where
  providers : List (Seen Provider)
  valid : List Descriptor
  loadOrder : List Descriptor
  served : ValidProviders
  initializers : List (Seen Initializer)
  authMechanisms : List (Seen Plugin)
  authorizers : List (Seen Plugin)
  tokenManager : Option (Seen Plugin)
  authenticators : List (Seen Plugin)
  interceptors : List (Seen Exchanger)
  services : List (Seen Exchanger)
  report : InjectionReport
  plugins : String → Option (Seen Plugin)

namespace Assembly.Result

def see {ι : Type} (result : Result) (records : List (Record (Live ι))) : List (Seen ι) :=
  records.map result.factory.world.see

def sight (result : Result) : Sight where
  providers := result.see result.assembly.providers
  valid := result.assembly.validation.valid
  loadOrder := result.assembly.validation.loadOrder
  served := result.assembly.valid
  initializers := result.see result.assembly.initializers
  authMechanisms := result.see result.assembly.authMechanisms
  authorizers := result.see result.assembly.authorizers
  tokenManager := result.assembly.tokenManager.map result.factory.world.see
  authenticators := result.see result.assembly.authenticators
  interceptors := result.see result.interceptors
  services := result.see result.services
  report := result.assembly.report
  plugins className := (result.factory.record? className).map result.factory.world.see

end Assembly.Result

/-- What a registry shows once it is assembled. -/
def Registry.sight (registry : Registry) : Sight :=
  let (assembly, assembled) := registry.assemble
  Assembly.Result.sight
    ⟨assembly, assembled.interceptors, assembled.services, assembled.factory⟩

namespace Table

variable {α β : Type} {related : α → β → Prop}

/-- Related entries make related tables. -/
theorem extend_rel {table : Table α} {other : Table β}
    (start : ∀ name, Option.Rel related (table.find? name) (other.find? name))
    {entries : List (String × α)} {others : List (String × β)}
    (paired : List.Forall₂ (fun first second => first.1 = second.1 ∧ related first.2 second.2)
      entries others) (name : String) :
    Option.Rel related ((table.extend entries).find? name) ((other.extend others).find? name) := by
  induction paired generalizing table other with
  | nil => exact start name
  | @cons first second rest more same paired ih =>
      have next : ∀ wanted, Option.Rel related ((table.insert first.1 first.2).find? wanted)
          ((other.insert second.1 second.2).find? wanted) := by
        intro wanted
        rw [find?_insert, find?_insert, same.1]
        by_cases here : wanted = second.1
        · rw [if_pos here, if_pos here]
          exact .some same.2
        · rw [if_neg here, if_neg here]
          exact start wanted
      exact ih next

theorem ofEntries_rel {entries : List (String × α)} {others : List (String × β)}
    (paired : List.Forall₂ (fun first second => first.1 = second.1 ∧ related first.2 second.2)
      entries others) (name : String) :
    Option.Rel related ((ofEntries entries).find? name) ((ofEntries others).find? name) :=
  extend_rel (fun _ => .none) paired name

/-- The plugins that two tables hold under one class are paired when they look alike. -/
def Links (records others : Table (Record (Live Plugin))) (one other : Nat) : Prop :=
  ∃ className record counterpart, records.find? className = some record ∧
    others.find? className = some counterpart ∧
      record.map Live.face = counterpart.map Live.face ∧
        record.plugin.id = one ∧ counterpart.plugin.id = other

end Table

/-- The plugins of two assemblies start with the same memories. -/
theorem Housed.agree {records others : Table (Record (Live Plugin))} {first second : World}
    (housed : Housed records first) (also : Housed others second) :
    Agree (records.Links others) first second where
  pairing := by
    constructor
    · rintro _ _ _ ⟨className, record, _, held, found, -, rfl, rfl⟩
        ⟨otherClass, twin, _, alsoHeld, alsoFound, -, same, rfl⟩
      obtain rfl := housed.apart className otherClass record twin held alsoHeld same.symm
      rw [found, Option.some.injEq] at alsoFound
      rw [alsoFound]
    · rintro _ _ _ ⟨className, _, record, held, found, -, rfl, rfl⟩
        ⟨otherClass, _, twin, alsoHeld, alsoFound, -, rfl, same⟩
      obtain rfl := also.apart className otherClass record twin found alsoFound same.symm
      rw [held, Option.some.injEq] at alsoHeld
      rw [alsoHeld]
  housed := by
    rintro _ _ ⟨className, record, counterpart, held, found, -, rfl, rfl⟩
    exact ⟨housed.number_lt held, also.number_lt found⟩
  memory := by
    rintro _ _ ⟨className, record, counterpart, held, found, face, rfl, rfl⟩
    obtain ⟨resident, present, memory⟩ := housed.fresh className record held
    obtain ⟨other, otherPresent, otherMemory⟩ := also.fresh className counterpart found
    have same : record.plugin.face = counterpart.plugin.face := congrArg Record.plugin face
    rw [World.memory, World.memory, present, otherPresent, Option.map_some, Option.map_some,
      memory, otherMemory, same]

theorem Agree.see {linked : Nat → Nat → Prop} {first second : World}
    (agree : Agree linked first second) {record counterpart : Record (Live ι)}
    (twin : Twin linked record counterpart) : first.see record = second.see counterpart :=
  Prod.ext twin.face (agree.memory twin.linked)

theorem Agree.see_all {linked : Nat → Nat → Prop} {first second : World}
    (agree : Agree linked first second) {records counterparts : List (Record (Live ι))}
    (twins : List.Forall₂ (Twin linked) records counterparts) :
    records.map first.see = counterparts.map second.see := by
  rw [← List.forall₂_eq_eq_eq, List.forall₂_map_left_iff, List.forall₂_map_right_iff]
  exact twins.imp fun _ _ twin => agree.see twin

/-- Both plugins were built from one descriptor, and their records are twins. -/
structure TwinBuilt (linked : Nat → Nat → Prop) (first second : Built ι) : Prop where
  descriptor : first.descriptor = second.descriptor
  record : Twin linked first.record second.record

namespace TwinBuilt

variable {linked : Nat → Nat → Prop} {first second : Built ι}

theorem erase (twin : TwinBuilt linked first second) (kind : Kind ι) :
    Twin linked (first.record.erase kind) (second.record.erase kind) where
  face := congrArg (Record.map kind.plugin) twin.record.face
  linked := twin.record.linked

theorem waiting? (twin : TwinBuilt linked first second) (kind : Kind ι) :
    Option.Rel (TwinPending linked) (first.waiting? kind) (second.waiting? kind) := by
  rw [Built.waiting?, Built.waiting?, twin.descriptor]
  cases second.descriptor.injections.isEmpty with
  | true => exact .none
  | false => exact .some ⟨rfl, twin.erase kind⟩

variable {built others : List (Built ι)}

theorem records (twins : List.Forall₂ (TwinBuilt linked) built others) :
    List.Forall₂ (Twin linked) (built.map Built.record) (others.map Built.record) := by
  rw [List.forall₂_map_left_iff, List.forall₂_map_right_iff]
  exact twins.imp fun _ _ twin => twin.record

theorem waiting (twins : List.Forall₂ (TwinBuilt linked) built others) (kind : Kind ι) :
    List.Forall₂ (TwinPending linked) (built.filterMap (Built.waiting? kind))
      (others.filterMap (Built.waiting? kind)) :=
  List.rel_filterMap (fun _ _ twin => twin.waiting? kind) twins

theorem entries (twins : List.Forall₂ (TwinBuilt linked) built others) (kind : Kind ι) :
    List.Forall₂ (fun first second => first.1 = second.1 ∧ Twin linked first.2 second.2)
      (built.map (entry kind)) (others.map (entry kind)) := by
  rw [List.forall₂_map_left_iff, List.forall₂_map_right_iff]
  exact twins.imp fun _ _ twin =>
    ⟨congrArg Descriptor.className twin.descriptor, twin.erase kind⟩

/-- Plugins that were built alike are twins once both tables hold them. -/
theorem of_offers {records counterparts : Table (Record (Live Plugin))} {kind : Kind ι}
    (same : built.map offer = others.map offer)
    (held : ∀ plugin ∈ built, records.find? plugin.className = some (plugin.record.erase kind))
    (found : ∀ plugin ∈ others,
      counterparts.find? plugin.className = some (plugin.record.erase kind)) :
    List.Forall₂ (TwinBuilt (records.Links counterparts)) built others := by
  have paired : List.Forall₂ (fun first second => offer first = offer second) built others := by
    rwa [← List.forall₂_eq_eq_eq, List.forall₂_map_left_iff, List.forall₂_map_right_iff] at same
  induction paired with
  | nil => exact .nil
  | @cons first second rest more alike paired ih =>
      obtain ⟨descriptor, face⟩ := Prod.mk.inj alike
      rw [List.forall_mem_cons] at held found
      have counterpart := found.1
      rw [Built.className, ← descriptor] at counterpart
      refine .cons ⟨descriptor, face, first.className, _, _, held.1, counterpart,
        congrArg (Record.map kind.plugin) face, rfl, rfl⟩ (ih ?_ held.2 found.2)
      exact (List.cons.inj same).2

end TwinBuilt

namespace Assembly

/-- The categories of both assemblies have built alike. -/
structure Stages.Alike (stages others : Stages) : Prop where
  providers : stages.providers.map offer = others.providers.map offer
  initializers : stages.initializers.map offer = others.initializers.map offer
  authMechanisms : stages.authMechanisms.map offer = others.authMechanisms.map offer
  authorizers : stages.authorizers.map offer = others.authorizers.map offer
  tokenManagers : stages.tokenManagers.map offer = others.tokenManagers.map offer
  authenticators : stages.authenticators.map offer = others.authenticators.map offer
  interceptors : stages.interceptors.map offer = others.interceptors.map offer
  services : stages.services.map offer = others.services.map offer

/-- The plugins of both assemblies are twins. -/
structure Stages.Twins (linked : Nat → Nat → Prop) (stages others : Stages) : Prop where
  providers : List.Forall₂ (TwinBuilt linked) stages.providers others.providers
  initializers : List.Forall₂ (TwinBuilt linked) stages.initializers others.initializers
  authMechanisms : List.Forall₂ (TwinBuilt linked) stages.authMechanisms others.authMechanisms
  authorizers : List.Forall₂ (TwinBuilt linked) stages.authorizers others.authorizers
  tokenManagers : List.Forall₂ (TwinBuilt linked) stages.tokenManagers others.tokenManagers
  authenticators : List.Forall₂ (TwinBuilt linked) stages.authenticators others.authenticators
  interceptors : List.Forall₂ (TwinBuilt linked) stages.interceptors others.interceptors
  services : List.Forall₂ (TwinBuilt linked) stages.services others.services

namespace Stages.Twins

variable {linked : Nat → Nat → Prop} {stages others : Stages}

theorem pending (twins : Stages.Twins linked stages others) (loadOrder : List Descriptor) :
    List.Forall₂ (TwinPending linked) (stages.pending loadOrder) (others.pending loadOrder) := by
  have providers : List.Forall₂ (TwinPending linked)
      (loadOrder.filterMap (waiting? (.ofEntries (stages.providers.map (entry Kind.providers)))))
      (loadOrder.filterMap
        (waiting? (.ofEntries (others.providers.map (entry Kind.providers))))) := by
    refine List.rel_filterMap ?_ (List.forall₂_same.mpr fun descriptor _ => rfl)
    rintro descriptor _ rfl
    rw [waiting?, waiting?]
    cases descriptor.injections.isEmpty with
    | true => exact .none
    | false =>
        have held := Table.ofEntries_rel (TwinBuilt.entries twins.providers Kind.providers)
          descriptor.className
        rw [if_neg Bool.false_ne_true, if_neg Bool.false_ne_true]
        generalize Table.find? _ descriptor.className = here at held ⊢
        generalize Table.find? _ descriptor.className = there at held ⊢
        cases held with
        | none => exact .none
        | some twin => exact .some ⟨rfl, twin⟩
  exact List.rel_append (List.rel_append (List.rel_append (List.rel_append (List.rel_append
    (List.rel_append (List.rel_append providers
      (TwinBuilt.waiting twins.initializers _)) (TwinBuilt.waiting twins.authMechanisms _))
      (TwinBuilt.waiting twins.authorizers _)) (TwinBuilt.waiting twins.tokenManagers _))
      (TwinBuilt.waiting twins.authenticators _)) (TwinBuilt.waiting twins.interceptors _))
      (TwinBuilt.waiting twins.services _)

theorem entries (twins : Stages.Twins linked stages others) :
    List.Forall₂ (fun first second => first.1 = second.1 ∧ Twin linked first.2 second.2)
      stages.entries others.entries :=
  List.rel_append (List.rel_append (List.rel_append (List.rel_append (List.rel_append
    (List.rel_append (List.rel_append (TwinBuilt.entries twins.providers _)
      (TwinBuilt.entries twins.initializers _)) (TwinBuilt.entries twins.authMechanisms _))
      (TwinBuilt.entries twins.authorizers _)) (TwinBuilt.entries twins.tokenManagers _))
      (TwinBuilt.entries twins.authenticators _)) (TwinBuilt.entries twins.interceptors _))
      (TwinBuilt.entries twins.services _)

end Stages.Twins

theorem Stages.subset_standing (stages : Stages) :
    stages.providers.map (Built.pending Kind.providers) ⊆ stages.standing ∧
      stages.initializers.map (Built.pending Kind.initializers) ⊆ stages.standing ∧
      stages.authMechanisms.map (Built.pending Kind.authMechanisms) ⊆ stages.standing ∧
      stages.authorizers.map (Built.pending Kind.authorizers) ⊆ stages.standing ∧
      stages.tokenManagers.map (Built.pending Kind.tokenManagers) ⊆ stages.standing ∧
      stages.authenticators.map (Built.pending Kind.authenticators) ⊆ stages.standing ∧
      stages.interceptors.map (Built.pending Kind.interceptors) ⊆ stages.standing ∧
      stages.services.map (Built.pending Kind.services) ⊆ stages.standing := by
  simp only [List.subset_def, standing, List.mem_append]
  refine ⟨?_, ?_, ?_, ?_, ?_, ?_, ?_, ?_⟩ <;> · intro plugin member; simp [member]

/-- An assembly that is over, with what its categories have built. -/
structure Finished (discovery : Discovery) (sections : Sections) (world : World) (stages : Stages)
    (result : Result) (between : World) : Prop where
  distinct : discovery.Distinct
  assembled : Assembled discovery sections stages result
  recorded : Recorded discovery sections world stages result
  injected : Injected discovery sections stages result between

theorem run_finished {discovery : Discovery} (distinct : discovery.Distinct)
    (sections : Sections) (world : World) :
    ∃ stages between, Finished discovery sections world stages
      (run discovery { sections := sections, world := world }) between := by
  obtain ⟨stages, assembled, recorded, between, injected⟩ := run_injected distinct sections world
  exact ⟨stages, between, distinct, assembled, recorded, injected⟩

/-- The plugins that stay in both assemblies are paired. -/
abbrev Pairs (result other : Result) : Nat → Nat → Prop :=
  result.factory.records.Links other.factory.records

namespace Finished

variable {discovery : Discovery} {sections : Sections} {world between : World} {stages : Stages}
  {result : Result} (finished : Finished discovery sections world stages result between)
include finished

/-- The table of records holds whatever a category has built. -/
theorem found {kind : Kind ι} {built : List (Built ι)}
    (part : built.map (Built.pending kind) ⊆ stages.standing) :
    ∀ plugin ∈ built, result.factory.records.find? plugin.className =
      some (plugin.record.erase kind) := by
  intro plugin member
  have classes := finished.assembled.standing_classes finished.distinct
  have stands : plugin.pending kind ∈ stages.standing := part (List.mem_map_of_mem member)
  exact (finished.recorded.record?_iff classes _ _).mpr ⟨_, stands, rfl, rfl⟩

variable {other : Discovery} {otherWorld otherBetween : World} {others : Stages}
  {otherResult : Result}
  (also : Finished other sections otherWorld others otherResult otherBetween)
include also

theorem twins_of_offers {kind : Kind ι} {built counterparts : List (Built ι)}
    (same : built.map offer = counterparts.map offer)
    (here : built.map (Built.pending kind) ⊆ stages.standing)
    (there : counterparts.map (Built.pending kind) ⊆ others.standing) :
    List.Forall₂ (TwinBuilt (Pairs result otherResult)) built counterparts :=
  TwinBuilt.of_offers same (finished.found here) (also.found there)

theorem twins (alike : stages.Alike others) :
    Stages.Twins (Pairs result otherResult) stages others := by
  obtain ⟨here0, here1, here2, here3, here4, here5, here6, here7⟩ := stages.subset_standing
  obtain ⟨there0, there1, there2, there3, there4, there5, there6, there7⟩ := others.subset_standing
  exact {
    providers := finished.twins_of_offers also alike.providers here0 there0
    initializers := finished.twins_of_offers also alike.initializers here1 there1
    authMechanisms := finished.twins_of_offers also alike.authMechanisms here2 there2
    authorizers := finished.twins_of_offers also alike.authorizers here3 there3
    tokenManagers := finished.twins_of_offers also alike.tokenManagers here4 there4
    authenticators := finished.twins_of_offers also alike.authenticators here5 there5
    interceptors := finished.twins_of_offers also alike.interceptors here6 there6
    services := finished.twins_of_offers also alike.services here7 there7 }

/-- Assemblies that have built alike and agree on the validation look alike. -/
theorem sight_eq (alike : stages.Alike others)
    (valid : (discovery.validation sections).valid = (other.validation sections).valid)
    (loadOrder : (discovery.validation sections).loadOrder =
      (other.validation sections).loadOrder)
    (served : discovery.valid sections = other.valid sections) :
    result.sight = otherResult.sight := by
  have twins := finished.twins also alike
  have providers : List.Forall₂ (Twin (Pairs result otherResult)) result.assembly.providers
      otherResult.assembly.providers := by
    rw [finished.assembled.providers, also.assembled.providers]
    exact TwinBuilt.records twins.providers
  have waiting := twins.pending (discovery.validation sections).loadOrder
  obtain ⟨_, _, _, here, there, injected⟩ := (Injection.serveAll_twin
    (finished.injected.housed.agree also.injected.housed) providers waiting).ends
  obtain ⟨-, told, residents⟩ := finished.injected
  obtain ⟨-, otherTold, otherResidents⟩ := also.injected
  rw [here] at told residents
  rw [← loadOrder, there] at otherTold otherResidents
  have agree : Agree (Pairs result otherResult) result.factory.world otherResult.factory.world :=
    injected.of_residents residents otherResidents
  have see {ι : Type} {kind : Kind ι} {built counterparts : List (Built ι)}
      {records otherRecords : List (Record (Live ι))}
      (collected : Collected discovery sections kind built records)
      (alsoCollected : Collected other sections kind counterparts otherRecords)
      (paired : List.Forall₂ (TwinBuilt (Pairs result otherResult)) built counterparts) :
      result.see records = otherResult.see otherRecords := by
    rw [collected.records, alsoCollected.records]
    exact agree.see_all (TwinBuilt.records paired)
  obtain ⟨managers, fourth, head⟩ := finished.assembled.tokenManagers
  obtain ⟨otherManagers, otherFourth, otherHead⟩ := also.assembled.tokenManagers
  rw [Result.sight, Result.sight, Sight.mk.injEq]
  refine ⟨agree.see_all providers, ?_, ?_, ?_,
    see finished.assembled.initializers also.assembled.initializers twins.initializers,
    see finished.assembled.authMechanisms also.assembled.authMechanisms twins.authMechanisms,
    see finished.assembled.authorizers also.assembled.authorizers twins.authorizers, ?_,
    see finished.assembled.authenticators also.assembled.authenticators twins.authenticators,
    see finished.assembled.interceptors also.assembled.interceptors twins.interceptors,
    see finished.assembled.services also.assembled.services twins.services,
    told.trans otherTold.symm, ?_⟩
  · rw [finished.assembled.validation, also.assembled.validation, valid]
  · rw [finished.assembled.validation, also.assembled.validation, loadOrder]
  · rw [finished.assembled.valid, also.assembled.valid, served]
  · have all := see fourth otherFourth twins.tokenManagers
    rw [head, otherHead, ← List.head?_map, ← List.head?_map]
    exact congrArg List.head? all
  · funext className
    have held := Table.ofEntries_rel twins.entries className
    rw [← finished.recorded.table, ← also.recorded.table] at held
    rw [Factory.record?, Factory.record?]
    generalize result.factory.records.find? className = here at held ⊢
    generalize otherResult.factory.records.find? className = there at held ⊢
    cases held with
    | none => rfl
    | some twin => exact congrArg some (agree.see twin)

end Finished

end Assembly

end PluginHost
