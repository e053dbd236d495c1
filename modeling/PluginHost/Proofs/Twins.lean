import PluginHost.Injection
import Mathlib.Data.List.Forall2
import Mathlib.Data.Option.Basic

/-
This file compares two injections that differ in nothing but the numbers of the instances. Both come
to the same report and leave the same memories behind.
-/

namespace PluginHost

/-- No instance of either side is paired twice. -/
structure Pairing (linked : Nat → Nat → Prop) : Prop where
  left : ∀ {first second third : Nat}, linked first second → linked first third → second = third
  right : ∀ {first second third : Nat}, linked first third → linked second third → first = second

/-- Paired instances exist and remember the same. -/
structure Agree (linked : Nat → Nat → Prop) (first second : World) : Prop where
  pairing : Pairing linked
  housed : ∀ {one other : Nat}, linked one other →
    one < first.residents.length ∧ other < second.residents.length
  memory : ∀ {one other : Nat}, linked one other → first.memory one = second.memory other

/-- Both records are the same but for the number of the instance, and the instances are paired. -/
structure Twin {ι : Type} (linked : Nat → Nat → Prop) (first second : Record (Live ι)) : Prop where
  face : first.map Live.face = second.map Live.face
  linked : linked first.plugin.id second.plugin.id

/-- Both plugins wait as the same, and their records are twins. -/
structure TwinPending (linked : Nat → Nat → Prop) (first second : Pending) : Prop where
  descriptor : first.descriptor = second.descriptor
  record : Twin linked first.record second.record

/-- Both runs have come to one outcome, and to worlds that agree. -/
inductive Parallel {α : Type} (linked : Nat → Nat → Prop) : α × World → α × World → Prop
  | intro (outcome : α) {first second : World} (agree : Agree linked first second) :
      Parallel linked (outcome, first) (outcome, second)

/-- What either run has come to can be named. -/
theorem Parallel.ends {α : Type} {linked : Nat → Nat → Prop} {one other : α × World}
    (parallel : Parallel linked one other) : ∃ outcome first second,
      one = (outcome, first) ∧ other = (outcome, second) ∧ Agree linked first second := by
  obtain ⟨outcome, agree⟩ := parallel
  exact ⟨outcome, _, _, rfl, rfl, agree⟩

namespace World

theorem memory_setMemory (world : World) {id : Nat} (present : id < world.residents.length)
    (memory : Memory) (other : Nat) :
    (world.setMemory id memory).memory other =
      if other = id then memory else world.memory other := by
  rw [World.memory, World.memory, setMemory, List.getElem?_modify]
  by_cases same : other = id
  · subst same
    simp [List.getElem?_eq_getElem present]
  · have differs : ¬ id = other := fun equal => same equal.symm
    simp [same, differs]

theorem length_setMemory (world : World) (id : Nat) (memory : Memory) :
    (world.setMemory id memory).residents.length = world.residents.length :=
  List.length_modify ..

end World

namespace Agree

variable {linked : Nat → Nat → Prop} {first second : World}

theorem of_residents {nextFirst nextSecond : World} (agree : Agree linked first second)
    (sameFirst : nextFirst.residents = first.residents)
    (sameSecond : nextSecond.residents = second.residents) : Agree linked nextFirst nextSecond where
  pairing := agree.pairing
  housed := by
    rw [sameFirst, sameSecond]
    exact agree.housed
  memory := by
    intro one other pair
    rw [World.memory, World.memory, sameFirst, sameSecond]
    exact agree.memory pair

theorem setMemory (agree : Agree linked first second) {one other : Nat}
    (pair : linked one other) (memory : Memory) :
    Agree linked (first.setMemory one memory) (second.setMemory other memory) where
  pairing := agree.pairing
  housed := by
    rw [World.length_setMemory, World.length_setMemory]
    exact agree.housed
  memory := by
    intro another counterpart alsoPair
    obtain ⟨firstIn, secondIn⟩ := agree.housed pair
    rw [World.memory_setMemory first firstIn, World.memory_setMemory second secondIn]
    -- Pairs that share a side are one pair, so both sides are written or neither is.
    by_cases same : another = one
    · subst same
      rw [if_pos rfl, if_pos (agree.pairing.left alsoPair pair)]
    · have differs : counterpart ≠ other := by
        rintro rfl
        exact same (agree.pairing.right alsoPair pair)
      rw [if_neg same, if_neg differs]
      exact agree.memory alsoPair

theorem settle {α : Type} (agree : Agree linked first second) {one other : Nat}
    (pair : linked one other) (reply : Reply α) :
    Agree linked (first.settle one reply) (second.settle other reply) :=
  (agree.setMemory pair reply.memory).of_residents rfl rfl

end Agree

namespace Twin

variable {ι : Type} {linked : Nat → Nat → Prop} {first second : Record (Live ι)}

theorem name (twin : Twin linked first second) : first.name = second.name := by
  change (first.map Live.face).name = (second.map Live.face).name
  rw [twin.face]

theorem enabled (twin : Twin linked first second) : first.enabled = second.enabled := by
  change (first.map Live.face).enabled = (second.map Live.face).enabled
  rw [twin.face]

theorem plugin (twin : Twin linked first second) : first.plugin.face = second.plugin.face :=
  congrArg Record.plugin twin.face

end Twin

namespace Injection

variable {linked : Nat → Nat → Prop} {providers others : List ProviderRecord}
  {consumer twin : Record (Live Plugin)} {first second : World}

theorem provider?_twin (paired : List.Forall₂ (Twin linked) providers others) (name : String) :
    Option.Rel (Twin linked) (provider? providers name) (provider? others name) := by
  induction paired with
  | nil => exact .none
  | @cons one other rest more same paired ih =>
      rw [provider?, provider?, List.find?_cons, List.find?_cons, same.enabled, same.name]
      cases other.enabled && other.name == name with
      | true => exact .some same
      | false => exact ih

theorem produce_twin (agree : Agree linked first second) {provider counterpart : ProviderRecord}
    (same : Twin linked provider counterpart) (plugin : String)
    (consumers : Twin linked consumer twin) :
    Parallel linked (produce first provider plugin consumer)
      (produce second counterpart plugin twin) := by
  have asked : Agree linked
      (first.calledOn provider.plugin.face.toPlugin (.produce provider.name consumer.name))
      (second.calledOn counterpart.plugin.face.toPlugin (.produce counterpart.name twin.name)) :=
    agree.of_residents rfl rfl
  unfold produce
  dsimp only
  rw [consumers.face, asked.memory same.linked, same.plugin]
  rw [same.plugin] at asked
  exact .intro _ (asked.settle same.linked _)

theorem deliver_twin (agree : Agree linked first second) (consumers : Twin linked consumer twin)
    (field : String) (value : Provided) :
    Parallel linked (deliver first consumer field value) (deliver second twin field value) := by
  have asked : Agree linked
      (first.calledOn consumer.plugin.face (.inject consumer.name field))
      (second.calledOn twin.plugin.face (.inject twin.name field)) := agree.of_residents rfl rfl
  unfold deliver
  dsimp only
  rw [asked.memory consumers.linked]
  cases ((second.calledOn twin.plugin.face (.inject twin.name field)).memory
      twin.plugin.id).slots.inject field value with
  | error error => exact .intro _ asked
  | ok slots => exact .intro _ (asked.setMemory consumers.linked _)

theorem fillField_twin (descriptor : Descriptor) (agree : Agree linked first second)
    (paired : List.Forall₂ (Twin linked) providers others) (consumers : Twin linked consumer twin)
    (field : FieldInjection) :
    Parallel linked (fillField providers descriptor consumer field first)
      (fillField others descriptor twin field second) := by
  have served := provider?_twin paired field.provider
  unfold fillField
  generalize provider? providers field.provider = here at served ⊢
  generalize provider? others field.provider = there at served ⊢
  cases served with
  | none => exact .intro _ agree
  | @some provider counterpart same =>
      obtain ⟨outcome, _, _, here, there, between⟩ :=
        (produce_twin agree same descriptor.name consumers).ends
      dsimp only
      rw [here, there]
      cases outcome with
      | error error => exact .intro _ between
      | ok value =>
          obtain ⟨outcome, _, _, here, there, after⟩ :=
            (deliver_twin between consumers field.field value).ends
          dsimp only
          rw [here, there]
          cases outcome with
          | error error => exact .intro _ after
          | ok done => exact .intro _ (after.of_residents rfl rfl)

theorem fillFields_twin (descriptor : Descriptor) (agree : Agree linked first second)
    (paired : List.Forall₂ (Twin linked) providers others) (consumers : Twin linked consumer twin)
    (fields : List FieldInjection) :
    Parallel linked (fillFields providers descriptor consumer fields first)
      (fillFields others descriptor twin fields second) := by
  induction fields generalizing first second with
  | nil => exact .intro _ agree
  | cons field rest ih =>
      obtain ⟨outcome, _, _, here, there, between⟩ :=
        (fillField_twin descriptor agree paired consumers field).ends
      rw [fillFields, fillFields, here, there]
      cases outcome with
      | error error => exact .intro _ between
      | ok done => exact ih between

theorem invoke_twin (agree : Agree linked first second) (consumers : Twin linked consumer twin)
    (method : String) :
    Parallel linked (invoke first consumer method) (invoke second twin method) := by
  have asked : Agree linked
      (first.calledOn consumer.plugin.face (.invoke consumer.name method))
      (second.calledOn twin.plugin.face (.invoke twin.name method)) := agree.of_residents rfl rfl
  unfold invoke
  dsimp only
  rw [asked.memory consumers.linked, consumers.plugin]
  rw [consumers.plugin] at asked
  cases twin.plugin.face.hook? method with
  | none => exact .intro _ asked
  | some run => exact .intro _ (asked.settle consumers.linked _)

theorem runHook_twin (descriptor : Descriptor) (agree : Agree linked first second)
    (consumers : Twin linked consumer twin) (hook : MethodInjection) :
    Parallel linked (runHook descriptor consumer hook first)
      (runHook descriptor twin hook second) := by
  unfold runHook
  dsimp only
  by_cases tagged : timesTagged descriptor hook ≠ 1
  · rw [if_pos tagged, if_pos tagged]
    exact .intro _ (agree.of_residents rfl rfl)
  · obtain ⟨outcome, _, _, here, there, after⟩ := (invoke_twin agree consumers hook.method).ends
    rw [if_neg tagged, if_neg tagged, here, there]
    rcases outcome with _ | ⟨_ | error | panic⟩
    · exact .intro _ after
    · exact .intro _ (after.of_residents rfl rfl)
    · exact .intro _ after
    · exact .intro _ after

theorem runHooks_twin (descriptor : Descriptor) (agree : Agree linked first second)
    (consumers : Twin linked consumer twin) (hooks : List MethodInjection) :
    Parallel linked (runHooks descriptor consumer hooks first)
      (runHooks descriptor twin hooks second) := by
  induction hooks generalizing first second with
  | nil => exact .intro _ agree
  | cons hook rest ih =>
      obtain ⟨outcome, _, _, here, there, between⟩ :=
        (runHook_twin descriptor agree consumers hook).ends
      rw [runHooks, runHooks, here, there]
      cases outcome with
      | error error => exact .intro _ between
      | ok done => exact ih between

theorem serve_twin (agree : Agree linked first second)
    (paired : List.Forall₂ (Twin linked) providers others) {pending counterpart : Pending}
    (waiting : TwinPending linked pending counterpart) :
    Parallel linked (serve providers pending first) (serve others counterpart second) := by
  obtain ⟨outcome, _, _, here, there, between⟩ := (fillFields_twin counterpart.descriptor agree
    paired waiting.record counterpart.descriptor.fields).ends
  rw [serve, serve, waiting.descriptor, here, there]
  cases outcome with
  | error error => exact .intro _ between
  | ok done => exact runHooks_twin _ between waiting.record _

/-- The numbers of the instances leave no trace in a report or a memory. -/
theorem serveAll_twin (agree : Agree linked first second)
    (paired : List.Forall₂ (Twin linked) providers others) {pending counterparts : List Pending}
    (waiting : List.Forall₂ (TwinPending linked) pending counterparts) :
    Parallel linked (serveAll providers pending first) (serveAll others counterparts second) := by
  induction waiting generalizing first second with
  | nil => exact .intro _ agree
  | @cons plugin counterpart rest more same waiting ih =>
      obtain ⟨outcome, one, other, here, there, between⟩ := (serve_twin agree paired same).ends
      rw [serveAll, serveAll, same.descriptor, here, there]
      cases outcome with
      | ok done =>
          obtain ⟨report, _, _, here, there, after⟩ := (ih between).ends
          dsimp only
          rw [here, there]
          exact .intro _ after
      | error error =>
          let failure := failureEvent counterpart.descriptor.category counterpart.descriptor.name
            "Error injecting dependencies into" error
          have told : Agree linked (one.report failure) (other.report failure) :=
            between.of_residents rfl rfl
          obtain ⟨report, _, _, here, there, after⟩ := (ih told).ends
          dsimp only
          rw [here, there]
          exact .intro _ after

end Injection

end PluginHost
