import PluginHost.Proofs.Factory.Construction
import PluginHost.Proofs.Factory.Yield
import PluginHost.Proofs.Registry.Listing
import PluginHost.Registry.Assembly

/-
This file says which providers an assembly builds, which it keeps, and which of them wait. All of
it depends on the listed candidates and the sections alone.
-/

namespace PluginHost

open Factory (Adds offer offer? typing? entry sortByPriority admissible
  filterMap_cons_toList)

namespace Builtin

theorem instantiate_adds (factory : Factory) :
    (instantiate factory).1.map offer =
        candidates.filterMap (offer? factory.sections Kind.providers) ∧
      Adds factory (instantiate factory).2
        (candidates.filterMap (typing? factory.sections Kind.providers))
        ((instantiate factory).1.map (entry Kind.providers)) := by
  obtain ⟨firstOffer, first⟩ := factory.adopt?_adds config configProvider (by decide) rfl
  obtain ⟨secondOffer, second⟩ := (factory.adopt? config configProvider).2.adopt?_adds registry
    registryProvider (by decide) rfl
  rw [first.sections] at secondOffer second
  have both := first.trans second
  rw [instantiate, candidates, filterMap_cons_toList, filterMap_cons_toList, List.filterMap_nil,
    List.append_nil, filterMap_cons_toList, filterMap_cons_toList, List.filterMap_nil,
    List.append_nil, ← firstOffer, ← secondOffer, Option.toList_map, Option.toList_map]
  dsimp only
  rw [List.map_append, List.map_append]
  exact ⟨rfl, both⟩

theorem instantiate_constructs (factory : Factory) :
    Constructs factory.world (instantiate factory).2.world [] := by
  have first := factory.adopt?_constructs config configProvider
  have second := (factory.adopt? config configProvider).2.adopt?_constructs registry
    registryProvider
  exact first.trans second

end Builtin

namespace Assembly

/-- How the records of invalid providers are dropped: those of a valid class stay. -/
structure Drops (validation : Validation) (before after : Factory) : Prop where
  sections : after.sections = before.sections
  types : after.types = before.types
  pending : after.pending = before.pending
  records : ∀ className, validation.holdsClass className = true →
    after.records.find? className = before.records.find? className

namespace Drops

variable {validation : Validation} {before between after : Factory}

theorem refl (validation : Validation) (factory : Factory) :
    Drops validation factory factory := ⟨rfl, rfl, rfl, fun _ _ => rfl⟩

theorem trans (first : Drops validation before between) (second : Drops validation between after) :
    Drops validation before after where
  sections := second.sections.trans first.sections
  types := second.types.trans first.types
  pending := second.pending.trans first.pending
  records := fun className held =>
    (second.records className held).trans (first.records className held)

theorem forget (factory : Factory) (events : List Log.Event) {className : String}
    (invalid : validation.holdsClass className = false) :
    Drops validation factory ((factory.report events).forget className) where
  sections := rfl
  types := rfl
  pending := rfl
  records := by
    intro other held
    have differs : other ≠ className := by
      rintro rfl
      rw [invalid] at held
      cases held
    rw [Factory.forget, Table.find?_erase, if_neg differs]
    rfl

end Drops

theorem keepValid_journal (validation : Validation) (built : List (Built Provider))
    (factory : Factory) :
    (keepValid validation built factory).2.world.journal = factory.world.journal := by
  induction built generalizing factory with
  | nil => rfl
  | cons plugin rest ih =>
      rw [keepValid]
      cases validation.holdsClass plugin.descriptor.className with
      | true => exact ih factory
      | false => exact ih _

/-- The record of an invalid class is gone once everything that was built is looked at. -/
theorem keepValid_forgets {validation : Validation} {className : String}
    (invalid : validation.holdsClass className = false) (built : List (Built Provider))
    (factory : Factory) :
    (keepValid validation built factory).2.records.find? className =
      if className ∈ built.map Built.className then none
      else factory.records.find? className := by
  induction built generalizing factory with
  | nil => rfl
  | cons plugin rest ih =>
      rw [keepValid, List.map_cons]
      by_cases here : plugin.descriptor.className = className
      · have listed : className ∈ plugin.className :: rest.map Built.className := by
          rw [← here]
          exact List.mem_cons_self
        rw [here, invalid, if_pos listed]
        simp only [Bool.false_eq_true, if_false]
        rw [ih, Factory.forget, Table.find?_erase, if_pos rfl, ite_self]
      · have elsewhere : className ∈ plugin.className :: rest.map Built.className ↔
            className ∈ rest.map Built.className := by
          rw [List.mem_cons, or_iff_right]
          exact fun same => here same.symm
        simp only [elsewhere]
        cases validation.holdsClass plugin.descriptor.className with
        | true => exact ih factory
        | false =>
            simp only [Bool.false_eq_true, if_false]
            have differs : ¬ className = plugin.descriptor.className := fun same => here same.symm
            rw [ih, Factory.forget, Table.find?_erase, if_neg differs]
            rfl

theorem keepValid_drops (validation : Validation) (built : List (Built Provider))
    (factory : Factory) :
    (keepValid validation built factory).1 =
        (built.filter fun plugin =>
          validation.holdsClass plugin.descriptor.className).map Built.record ∧
      Drops validation factory (keepValid validation built factory).2 := by
  induction built generalizing factory with
  | nil => exact ⟨rfl, .refl validation factory⟩
  | cons plugin rest ih =>
      rw [keepValid, List.filter_cons]
      cases held : validation.holdsClass plugin.descriptor.className with
      | true =>
          obtain ⟨records, drops⟩ := ih factory
          simp only [if_true, List.map_cons, records]
          exact ⟨trivial, drops⟩
      | false =>
          obtain ⟨records, drops⟩ := ih ((factory.report [event .debug "Dropping invalid provider"
            [("provider", .quoted plugin.record.name)]]).forget plugin.descriptor.className)
          simp only [Bool.false_eq_true, if_false]
          exact ⟨records, (Drops.forget factory _ held).trans drops⟩

/-- The providers whose constructors are called, in the order of the calls. -/
def calledProviders (discovery : Discovery) (sections : Sections) : List Candidate :=
  (sortByPriority (admissible Kind.providers .always discovery.providers)).filter sections.summons

/-- What the providers of an assembly are before anything else is built. -/
structure Providers (discovery : Discovery) (sections : Sections) (world : World)
    (kept : List (Built Provider)) (set : ProviderSet) (after : Factory) : Prop where
  offered : kept.map offer =
    (discovery.kept sections).filterMap (offer? sections Kind.providers)
  records : set.records = kept.map Built.record
  validation : set.validation = discovery.validation sections
  valid : set.valid = discovery.valid sections
  unchanged : after.sections = sections
  pending : after.pending = (discovery.validation sections).loadOrder.filterMap
    (Factory.waiting? (Table.ofEntries (kept.map (entry Kind.providers))))
  table : ∀ className, after.records.find? className =
    (Table.ofEntries (kept.map (entry Kind.providers))).find? className
  constructs : Constructs world after.world
    ((calledProviders discovery sections).map Candidate.birth)

/-- After the drop the table holds the providers that are kept and no others. -/
theorem keepValid_table (validation : Validation) {built : List (Built Provider)}
    (factory : Factory)
    (recorded : factory.records = Table.ofEntries (built.map (entry Kind.providers)))
    (className : String) :
    (keepValid validation built factory).2.records.find? className =
      (Table.ofEntries ((built.filter fun plugin => validation.holdsClass
        plugin.descriptor.className).map (entry Kind.providers))).find? className := by
  have entries : (built.filter fun plugin => validation.holdsClass
      plugin.descriptor.className).map (entry Kind.providers) =
        (built.map (entry Kind.providers)).filter fun entry =>
          validation.holdsClass entry.1 := by
    rw [List.filter_map]
    rfl
  have unlisted (listed : List (String × Record (Live Plugin)))
      (absent : className ∉ listed.map Prod.fst) :
      (Table.ofEntries listed).find? className = none := by
    rw [← Option.not_isSome_iff_eq_none, Table.find?_ofEntries_isSome]
    exact absent
  rw [entries]
  cases held : validation.holdsClass className with
  | true =>
      rw [((keepValid_drops validation built factory).2).records _ held, recorded,
        Table.find?_ofEntries_filter _ _ held]
  | false =>
      rw [keepValid_forgets held, unlisted _ ?gone, recorded]
      case gone =>
        rintro known
        obtain ⟨kept, keptIn, rfl⟩ := List.mem_map.mp known
        have valid := (List.mem_filter.mp keptIn).2
        rw [held] at valid
        cases valid
      split
      · rfl
      · rename_i fresh
        refine unlisted _ fun known => fresh ?_
        rw [List.map_map] at known
        exact known

theorem providerSet_providers (discovery : Discovery) (sections : Sections) (world : World) :
    ∃ kept, Providers discovery sections world kept
      (providerSet discovery { sections := sections, world := world }).1
      (providerSet discovery { sections := sections, world := world }).2 := by
  let noted : Factory := Factory.report { sections := sections, world := world }
    (reservedLog (discovery .provider))
  let own := Builtin.instantiate noted
  let others := own.2.instantiate Kind.providers .always discovery.providers
  let built := own.1 ++ others.1
  let filled := others.2
  obtain ⟨ownOffers, ownAdds⟩ := Builtin.instantiate_adds noted
  obtain ⟨offers, adds⟩ := own.2.instantiate_adds Kind.providers .always discovery.providers
  rw [ownAdds.sections] at offers adds
  have all := ownAdds.trans adds
  rw [← List.filterMap_append, ← List.map_append] at all
  have offered : built.map offer =
      discovery.tried.filterMap (offer? sections Kind.providers) := by
    rw [List.map_append, ownOffers, offers, ← List.filterMap_append]
    rfl
  have graphEq : Graph.ofProviders discovery.providerDescriptors filled.sections filled.types =
      discovery.graph sections := by
    rw [all.sections, all.types]
    rfl
  let validation := discovery.validation sections
  let checked := filled.report ((discovery.graph sections).validationLog validation)
  have result : providerSet discovery { sections := sections, world := world } =
      let graph := Graph.ofProviders discovery.providerDescriptors filled.sections filled.types
      let kept := keepValid graph.validate built
        (filled.report (graph.validationLog graph.validate))
      (⟨kept.1, graph.validate, .ofValidation graph.validate graph.types⟩,
        graph.validate.loadOrder.foldl Factory.enqueue kept.2) := rfl
  rw [graphEq] at result
  let dropped := keepValid validation built checked
  change _ = (ProviderSet.mk dropped.1 validation (discovery.valid sections),
    validation.loadOrder.foldl Factory.enqueue dropped.2) at result
  rw [result, Factory.enqueueAll]
  obtain ⟨records, drops⟩ := keepValid_drops validation built checked
  have pending : dropped.2.pending = [] := drops.pending.trans all.pending
  rw [pending, List.nil_append]
  have born := (Builtin.instantiate_constructs noted).trans
    (own.2.instantiate_constructs Kind.providers .always discovery.providers)
  rw [ownAdds.sections] at born
  have quiet : Constructs filled.world dropped.2.world [] :=
    .of_journal (keepValid_journal validation built checked)
  have called := born.trans quiet
  rw [List.append_nil, List.nil_append] at called
  have table := keepValid_table validation checked all.records
  exact ⟨_, BuiltFrom.offered_filter validation.holdsClass offered, records, rfl, rfl,
    drops.sections.trans all.sections,
    List.filterMap_congr fun descriptor _ => Factory.waiting?_congr (table descriptor.className),
    table, called⟩

end Assembly

end PluginHost
