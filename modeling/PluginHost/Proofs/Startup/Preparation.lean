import PluginHost.Proofs.Registry.Stages
import PluginHost.Proofs.Sessions

/-
This file says what an assembly has done before an initializer can run. All of its calls prepare
plugins, and no two of its initializers have the same number.
-/

namespace PluginHost

variable {ι : Type}

/-- The calls by which plugins are built and injected. -/
def Call.prepares : Call → Bool
  | .construct _ => true
  | .producedType _ => true
  | .produce .. => true
  | .inject .. => true
  | .invoke .. => true
  | .contract _ => false
  | .init _ => false
  | .note .. => false

/-- Plugins have been prepared, and nothing else was asked of them. -/
abbrev World.Prepares (before after : World) : Prop :=
  World.Grows (fun call => call.prepares = true) before after

theorem Constructs.prepares {before after : World} {births : List JournalEntry}
    (constructs : Constructs before after births) : World.Prepares before after := by
  obtain ⟨added, journal, -, built⟩ := constructs
  refine ⟨added, journal, fun entry member => ?_⟩
  obtain ⟨call, shown⟩ := entry
  rcases built _ member with constructed | typed
  · cases call with
    | construct plugin => rfl
    | _ => cases constructed
  · cases call with
    | producedType provider => rfl
    | _ => cases typed

theorem Injection.Serves.prepares {providers : List ProviderRecord} {descriptor : Descriptor}
    {consumer : Record (Live Plugin)} {call : Call}
    (serves : Serves providers descriptor consumer call) : call.prepares = true := by
  cases serves with
  | produce declared found => rfl
  | inject declared => rfl
  | invoke declared => rfl

theorem Injection.serveAll_prepares (providers : List ProviderRecord) (waiting : List Pending)
    (world : World) : World.Prepares world (serveAll providers waiting world).2 :=
  (grows_lasting _).serveAll fun pending _ now =>
    (serve_grows providers pending now).mono fun _ serves => serves.prepares

/-- The numbers were free in the first world, and are taken one after the other up to the
second. -/
structure Numbers (before after : World) (numbers : List Nat) : Prop where
  grown : before.residents.length ≤ after.residents.length
  ascending : numbers.Pairwise (· < ·)
  taken : ∀ number ∈ numbers,
    before.residents.length ≤ number ∧ number < after.residents.length

namespace Numbers

variable {before between after : World} {numbers more : List Nat}

theorem nothing (grown : before.residents.length ≤ after.residents.length) :
    Numbers before after [] :=
  ⟨grown, .nil, fun _ absurd => by cases absurd⟩

theorem trans (first : Numbers before between numbers) (second : Numbers between after more) :
    Numbers before after (numbers ++ more) where
  grown := first.grown.trans second.grown
  ascending := List.pairwise_append.mpr ⟨first.ascending, second.ascending,
    fun early earlyIn late lateIn =>
      (first.taken early earlyIn).2.trans_le (second.taken late lateIn).1⟩
  taken number member := by
    rcases List.mem_append.mp member with early | late
    · exact ⟨(first.taken number early).1, (first.taken number early).2.trans_le second.grown⟩
    · exact ⟨first.grown.trans (second.taken number late).1, (second.taken number late).2⟩

end Numbers

def Built.number (built : Built ι) : Nat := built.record.plugin.id

namespace Factory

theorem build?_numbers (factory : Factory) {kind : Kind ι} (faithful : kind.Faithful)
    (candidate : Candidate) :
    Numbers factory.world (factory.build? kind candidate).2.world
      ((factory.build? kind candidate).1.toList.map Built.number) := by
  unfold build?
  cases factory.sections.enables candidate.descriptor with
  | false => exact .nothing (Nat.le_refl _)
  | true =>
      simp only [Bool.not_true, Bool.false_eq_true, if_false]
      obtain ⟨-, entered⟩ := construct_houses factory faithful candidate
      generalize factory.construct kind candidate = answer at entered ⊢
      obtain ⟨outcome, next⟩ := answer
      cases outcome with
      | error error => exact .nothing entered.length_le
      | ok live =>
          obtain ⟨resident, entered, number, -⟩ := entered
          have length : next.world.residents.length = factory.world.residents.length + 1 := by
            rw [entered, List.length_append, List.length_singleton]
          refine ⟨Nat.le.intro length.symm, List.pairwise_singleton _ _, fun taken member => ?_⟩
          obtain rfl : taken = live.id := List.mem_singleton.mp member
          change _ ∧ live.id < next.world.residents.length
          omega

theorem buildAll_numbers (factory : Factory) {kind : Kind ι} (faithful : kind.Faithful)
    (candidates : List Candidate) :
    Numbers factory.world (factory.buildAll kind candidates).2.world
      ((factory.buildAll kind candidates).1.map Built.number) := by
  induction candidates generalizing factory with
  | nil => exact .nothing (Nat.le_refl _)
  | cons candidate rest ih =>
      have first := build?_numbers factory faithful candidate
      have others := ih (factory.build? kind candidate).2
      rw [buildAll]
      dsimp only
      rw [List.map_append]
      exact first.trans others

end Factory

namespace Assembly

/-- A category takes a number for each of its plugins. -/
theorem category_numbers {kind : Kind ι} (faithful : kind.Faithful) (discovery : Discovery)
    (valid : ValidProviders) (factory : Factory) :
    ((category kind discovery valid factory).1.map fun record => record.plugin.id).Nodup := by
  let condition : Factory.Condition := {
    holds := Precondition.holds valid factory.sections
    log := Precondition.log valid factory.sections }
  have numbers := Factory.buildAll_numbers
    (factory.report (Factory.admissionLog kind condition (discovery kind.category))) faithful
    (Factory.sortByPriority (Factory.admissible kind condition (discovery kind.category)))
  have distinct := numbers.ascending.imp Nat.ne_of_lt
  rw [category, List.map_map]
  exact distinct

theorem category_prepares (kind : Kind ι) (discovery : Discovery) (valid : ValidProviders)
    (factory : Factory) :
    World.Prepares factory.world (category kind discovery valid factory).2.world := by
  rw [category]
  dsimp only
  rw [Factory.enqueueAll]
  exact (Factory.instantiate_constructs factory kind _ _).prepares

/-- An assembly does nothing to plugins but prepare them. -/
theorem run_prepares (discovery : Discovery) (sections : Sections) (world : World) :
    World.Prepares world
      (run discovery { sections := sections, world := world }).factory.world := by
  obtain ⟨built, -, underway⟩ := providerSet_underway discovery sections world
  let set := providerSet discovery { sections := sections, world := world }
  let first := category Kind.initializers discovery set.1.valid set.2
  let second := category Kind.authMechanisms discovery set.1.valid first.2
  let third := category Kind.authorizers discovery set.1.valid second.2
  let fourth := category Kind.tokenManagers discovery set.1.valid third.2
  let mentioned := fourth.2.report (tokenManagerLog fourth.1)
  let fifth := category Kind.authenticators discovery set.1.valid mentioned
  let sixth := category Kind.interceptors discovery set.1.valid fifth.2
  let seventh := category Kind.services discovery set.1.valid sixth.2
  have ready : World.Prepares world seventh.2.world :=
    underway.constructs.prepares
      |>.trans (category_prepares Kind.initializers discovery set.1.valid set.2)
      |>.trans (category_prepares Kind.authMechanisms discovery set.1.valid first.2)
      |>.trans (category_prepares Kind.authorizers discovery set.1.valid second.2)
      |>.trans (category_prepares Kind.tokenManagers discovery set.1.valid third.2)
      |>.trans (category_prepares Kind.authenticators discovery set.1.valid mentioned)
      |>.trans (category_prepares Kind.interceptors discovery set.1.valid fifth.2)
      |>.trans (category_prepares Kind.services discovery set.1.valid sixth.2)
  exact ready.trans
    (Injection.serveAll_prepares set.1.records seventh.2.pending seventh.2.world)

end Assembly

end PluginHost
