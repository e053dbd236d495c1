import PluginHost.Proofs.Factory.Waiting
import PluginHost.Registry.Assembly

/-
This file says where the plugins live that are built. Each of them is a resident of its own, with a
memory that nothing has touched before the injection.
-/

namespace PluginHost

variable {ι : Type}

/-- What the kind selects of an instance is a face of its plugin. -/
def Kind.Faithful (kind : Kind ι) : Prop :=
  ∀ made face, kind.select made = some face → kind.plugin face = made.plugin

theorem Kind.all_faithful :
    providers.Faithful ∧ initializers.Faithful ∧ authMechanisms.Faithful ∧ authorizers.Faithful ∧
      tokenManagers.Faithful ∧ authenticators.Faithful ∧ interceptors.Faithful ∧
        services.Faithful := by
  refine ⟨?_, ?_, ?_, ?_, ?_, ?_, ?_, ?_⟩ <;>
    · intro made face selected
      cases made <;> cases selected
      rfl

/-- Every recorded plugin has a fresh memory, and no two of them share it. -/
structure Housed (records : Table (Record (Live Plugin))) (world : World) : Prop where
  fresh : ∀ className record, records.find? className = some record →
    ∃ resident, world.residents[record.plugin.id]? = some resident ∧
      resident.memory = Memory.fresh record.plugin.face.slots
  apart : ∀ first second record other, records.find? first = some record →
    records.find? second = some other → record.plugin.id = other.plugin.id → first = second

namespace Housed

variable {records : Table (Record (Live Plugin))} {before after : World}

theorem nothing (world : World) : Housed [] world where
  fresh _ _ held := by cases held
  apart _ _ _ _ held := by cases held

theorem number_lt (housed : Housed records before) {className : String}
    {record : Record (Live Plugin)} (held : records.find? className = some record) :
    record.plugin.id < before.residents.length := by
  obtain ⟨resident, present, -⟩ := housed.fresh className record held
  exact (List.getElem?_eq_some_iff.mp present).1

theorem mono (housed : Housed records before)
    (grown : before.residents <+: after.residents) : Housed records after where
  fresh := by
    intro className record held
    obtain ⟨resident, present, memory⟩ := housed.fresh className record held
    obtain ⟨added, grown⟩ := grown
    rw [← grown, List.getElem?_append_left (housed.number_lt held)]
    exact ⟨resident, present, memory⟩
  apart := housed.apart

/-- A new plugin takes the next number. -/
theorem insert (housed : Housed records before) (className : String)
    {record : Record (Live Plugin)} {resident : Resident}
    (entered : after.residents = before.residents ++ [resident])
    (number : record.plugin.id = before.residents.length)
    (memory : resident.memory = Memory.fresh record.plugin.face.slots) :
    Housed (records.insert className record) after := by
  have grown : before.residents <+: after.residents := ⟨[resident], entered.symm⟩
  constructor
  · intro other found held
    rw [Table.find?_insert] at held
    by_cases same : other = className
    · rw [if_pos same] at held
      obtain rfl := Option.some.inj held
      exact ⟨resident, by simp [entered, number], memory⟩
    · rw [if_neg same] at held
      exact (housed.mono grown).fresh other found held
  · -- An older plugin has a smaller number than the new one.
    have older {other : String} {found : Record (Live Plugin)}
        (held : records.find? other = some found) : found.plugin.id ≠ record.plugin.id := by
      have below := housed.number_lt held
      omega
    intro first second one other firstHeld secondHeld shared
    rw [Table.find?_insert] at firstHeld secondHeld
    by_cases firstNew : first = className <;> by_cases secondNew : second = className
    · rw [firstNew, secondNew]
    · rw [if_pos firstNew] at firstHeld
      rw [if_neg secondNew] at secondHeld
      obtain rfl := Option.some.inj firstHeld
      exact absurd shared.symm (older secondHeld)
    · rw [if_neg firstNew] at firstHeld
      rw [if_pos secondNew] at secondHeld
      obtain rfl := Option.some.inj secondHeld
      exact absurd shared (older firstHeld)
    · rw [if_neg firstNew] at firstHeld
      rw [if_neg secondNew] at secondHeld
      exact housed.apart first second one other firstHeld secondHeld shared

theorem erase (housed : Housed records before) (className : String) :
    Housed (records.erase className) before := by
  have kept {other : String} {found : Record (Live Plugin)}
      (held : (records.erase className).find? other = some found) :
      records.find? other = some found := by
    rw [Table.find?_erase, Option.ite_none_left_eq_some] at held
    exact held.2
  exact ⟨fun other found held => housed.fresh other found (kept held),
    fun first second one other firstHeld secondHeld =>
      housed.apart first second one other (kept firstHeld) (kept secondHeld)⟩

end Housed

namespace Factory

theorem recordType_houses (factory : Factory) (kind : Kind ι) (descriptor : Descriptor)
    (made : Instance) :
    (factory.recordType kind descriptor made).2.records = factory.records ∧
      (factory.recordType kind descriptor made).2.world.residents = factory.world.residents := by
  unfold recordType
  split
  · rename_i provider _
    dsimp only
    cases guardedCall descriptor.name provider.producedType with
    | ok type => exact ⟨rfl, rfl⟩
    | error error => exact ⟨rfl, rfl⟩
  · exact ⟨rfl, rfl⟩

theorem summon_houses (factory : Factory) (candidate : Candidate) :
    (factory.summon candidate).records = factory.records ∧
      (factory.summon candidate).world.residents = factory.world.residents := by
  unfold summon
  split
  · exact ⟨rfl, rfl⟩
  · exact ⟨rfl, rfl⟩

theorem ask_houses {factory after : Factory} {kind : Kind ι} {candidate : Candidate}
    {made : Instance} {outcome : Except PluginError Unit}
    (asked : factory.ask kind candidate made = (outcome, after)) :
    after.records = factory.records ∧ after.world.residents = factory.world.residents ++
      [⟨candidate.descriptor.name, made.plugin, Memory.fresh made.plugin.slots⟩] := by
  obtain ⟨same, stays⟩ := factory.summon_houses candidate
  obtain ⟨records, residents⟩ := recordType_houses ((factory.summon candidate).house candidate made)
    kind candidate.descriptor made
  rw [← ask, asked] at records residents
  refine ⟨records.trans same, residents.trans ?_⟩
  rw [← stays]
  rfl

/-- A constructed plugin is the newest resident, and a failed construction may leave one behind. -/
theorem construct_houses (factory : Factory) {kind : Kind ι} (faithful : kind.Faithful)
    (candidate : Candidate) :
    (factory.construct kind candidate).2.records = factory.records ∧
      match (factory.construct kind candidate).1 with
      | .error _ => factory.world.residents <+:
          (factory.construct kind candidate).2.world.residents
      | .ok live => ∃ resident, (factory.construct kind candidate).2.world.residents =
          factory.world.residents ++ [resident] ∧
            live.id = factory.world.residents.length ∧
              resident.memory = Memory.fresh (kind.plugin live.face).slots := by
  have ends := factory.construct_ends kind candidate
  generalize factory.construct kind candidate = answer at ends ⊢
  cases ends with
  | unmade error nothing =>
      obtain ⟨records, residents⟩ := factory.summon_houses candidate
      exact ⟨records, residents ▸ List.prefix_rfl⟩
  | untyped makes asked =>
      obtain ⟨records, residents⟩ := ask_houses asked
      exact ⟨records, _, residents.symm⟩
  | misfit makes asked unselected =>
      obtain ⟨records, residents⟩ := ask_houses asked
      exact ⟨records, _, residents.symm⟩
  | built makes asked selected =>
      obtain ⟨records, residents⟩ := ask_houses asked
      refine ⟨records, _, residents, rfl, ?_⟩
      rw [faithful _ _ selected]

theorem build?_housed {factory : Factory} {kind : Kind ι} (faithful : kind.Faithful)
    (candidate : Candidate) (housed : Housed factory.records factory.world) :
    Housed (factory.build? kind candidate).2.records (factory.build? kind candidate).2.world := by
  unfold build?
  cases factory.sections.enables candidate.descriptor with
  | false => exact housed.mono List.prefix_rfl
  | true =>
      simp only [Bool.not_true, Bool.false_eq_true, if_false]
      obtain ⟨records, entered⟩ := construct_houses factory faithful candidate
      generalize factory.construct kind candidate = answer at records entered ⊢
      obtain ⟨outcome, after⟩ := answer
      dsimp only at records entered ⊢
      cases outcome with
      | error error =>
          have kept := housed.mono entered
          rw [← records] at kept
          exact kept.mono List.prefix_rfl
      | ok live =>
          obtain ⟨resident, entered, number, memory⟩ := entered
          rw [← records] at housed
          exact housed.insert candidate.descriptor.className entered number memory

theorem buildAll_housed {factory : Factory} {kind : Kind ι} (faithful : kind.Faithful)
    (candidates : List Candidate) (housed : Housed factory.records factory.world) :
    Housed (factory.buildAll kind candidates).2.records
      (factory.buildAll kind candidates).2.world := by
  induction candidates generalizing factory with
  | nil => exact housed
  | cons candidate rest ih => exact ih (build?_housed faithful candidate housed)

theorem instantiate_housed {factory : Factory} {kind : Kind ι} (faithful : kind.Faithful)
    (condition : Condition) (candidates : List Candidate)
    (housed : Housed factory.records factory.world) :
    Housed (factory.instantiate kind condition candidates).2.records
      (factory.instantiate kind condition candidates).2.world :=
  buildAll_housed faithful _ (housed.mono List.prefix_rfl)

theorem adopt?_housed {factory : Factory} (descriptor : Descriptor) (provider : Provider)
    (housed : Housed factory.records factory.world) :
    Housed (factory.adopt? descriptor provider).2.records
      (factory.adopt? descriptor provider).2.world := by
  unfold adopt?
  cases factory.sections.enables descriptor with
  | false => exact housed.mono List.prefix_rfl
  | true => exact housed.insert descriptor.className rfl rfl rfl

theorem enqueueAll_housed {factory : Factory} (descriptors : List Descriptor)
    (housed : Housed factory.records factory.world) :
    Housed (descriptors.foldl enqueue factory).records
      (descriptors.foldl enqueue factory).world := by
  rw [enqueueAll]
  exact housed

end Factory

namespace Assembly

theorem keepValid_housed (validation : Validation) (built : List (Built Provider))
    {factory : Factory} (housed : Housed factory.records factory.world) :
    Housed (keepValid validation built factory).2.records
      (keepValid validation built factory).2.world := by
  induction built generalizing factory with
  | nil => exact housed
  | cons plugin rest ih =>
      rw [keepValid]
      cases validation.holdsClass plugin.descriptor.className with
      | true => exact ih housed
      | false => exact ih ((housed.erase _).mono List.prefix_rfl)

theorem providerSet_housed (discovery : Discovery) {factory : Factory}
    (housed : Housed factory.records factory.world) :
    Housed (providerSet discovery factory).2.records (providerSet discovery factory).2.world := by
  let noted := factory.report (reservedLog (discovery .provider))
  let own := noted.adopt? Builtin.config Builtin.configProvider
  let both := own.2.adopt? Builtin.registry Builtin.registryProvider
  have start : Housed noted.records noted.world := housed.mono List.prefix_rfl
  have first : Housed own.2.records own.2.world := Factory.adopt?_housed _ _ start
  have second : Housed both.2.records both.2.world := Factory.adopt?_housed _ _ first
  have third := Factory.instantiate_housed Kind.all_faithful.1 .always
    ((discovery .provider).filter fun candidate => !Builtin.isReserved candidate.name) second
  exact Factory.enqueueAll_housed _ (keepValid_housed _ _ (third.mono List.prefix_rfl))

theorem category_housed {kind : Kind ι} (faithful : kind.Faithful) (discovery : Discovery)
    (valid : ValidProviders) {factory : Factory}
    (housed : Housed factory.records factory.world) :
    Housed (category kind discovery valid factory).2.records
      (category kind discovery valid factory).2.world :=
  Factory.enqueueAll_housed _ (Factory.instantiate_housed faithful _ _ housed)

end Assembly

end PluginHost
