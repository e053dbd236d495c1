import PluginHost.Injection

/-
This file is about relations between two worlds that last: what each call into plugin code
preserves, a whole injection preserves.
-/

namespace PluginHost

/-- The relation is a preorder, and an event that is reported does not matter to it. -/
structure Lasting (R : World → World → Prop) : Prop where
  refl : ∀ world, R world world
  trans : ∀ {before between after}, R before between → R between after → R before after
  report : ∀ (world : World) (event : Log.Event), R world (world.report event)

namespace Lasting

open Injection

variable {R : World → World → Prop} {providers : List ProviderRecord} {descriptor : Descriptor}
  {consumer : Record (Live Plugin)}

theorem fillField (lasting : Lasting R) {field : FieldInjection} {world : World}
    (asked : ∀ provider, provider? providers field.provider = some provider →
      ∀ now, R now (produce now provider descriptor.name consumer).2)
    (delivered : ∀ value now, R now (deliver now consumer field.field value).2) :
    R world (Injection.fillField providers descriptor consumer field world).2 := by
  unfold Injection.fillField
  cases found : provider? providers field.provider with
  | none => exact lasting.refl world
  | some provider =>
      have first := asked provider found world
      dsimp only
      generalize produce world provider descriptor.name consumer = answer at first ⊢
      obtain ⟨produced, between⟩ := answer
      cases produced with
      | error cause => exact first
      | ok value =>
          have both := lasting.trans first (delivered value between)
          dsimp only
          generalize deliver between consumer field.field value = reply at both ⊢
          obtain ⟨outcome, after⟩ := reply
          cases outcome with
          | error cause => exact both
          | ok done => exact lasting.trans both (lasting.report after _)

theorem fillFields (lasting : Lasting R) {fields : List FieldInjection} {world : World}
    (each : ∀ field ∈ fields, ∀ now,
      R now (Injection.fillField providers descriptor consumer field now).2) :
    R world (Injection.fillFields providers descriptor consumer fields world).2 := by
  induction fields generalizing world with
  | nil => exact lasting.refl world
  | cons field rest ih =>
      obtain ⟨here, later⟩ := List.forall_mem_cons.mp each
      have first := here world
      rw [Injection.fillFields]
      generalize Injection.fillField providers descriptor consumer field world = answer at first ⊢
      obtain ⟨outcome, next⟩ := answer
      cases outcome with
      | error cause => exact first
      | ok done => exact lasting.trans first (ih later)

/-- Only a hook that is tagged once is called. -/
theorem runHook (lasting : Lasting R) {hook : MethodInjection} {world : World}
    (invoked : timesTagged descriptor hook = 1 → ∀ now, R now (invoke now consumer hook.method).2) :
    R world (Injection.runHook descriptor consumer hook world).2 := by
  unfold Injection.runHook
  dsimp only
  split
  · exact lasting.report world _
  · rename_i tagged
    have called := invoked (Decidable.not_not.mp tagged) world
    generalize invoke world consumer hook.method = answer at called ⊢
    obtain ⟨reply, next⟩ := answer
    rcases reply with _ | ⟨_ | cause | panic⟩
    · exact called
    · exact lasting.trans called (lasting.report next _)
    · exact called
    · exact called

theorem runHooks (lasting : Lasting R) {hooks : List MethodInjection} {world : World}
    (each : ∀ hook ∈ hooks, ∀ now, R now (Injection.runHook descriptor consumer hook now).2) :
    R world (Injection.runHooks descriptor consumer hooks world).2 := by
  induction hooks generalizing world with
  | nil => exact lasting.refl world
  | cons hook rest ih =>
      obtain ⟨here, later⟩ := List.forall_mem_cons.mp each
      have first := here world
      rw [Injection.runHooks]
      generalize Injection.runHook descriptor consumer hook world = answer at first ⊢
      obtain ⟨outcome, next⟩ := answer
      cases outcome with
      | error cause => exact first
      | ok done => exact lasting.trans first (ih later)

theorem serve (lasting : Lasting R) {pending : Pending} {world : World}
    (fills : ∀ field ∈ pending.descriptor.fields, ∀ now,
      R now (Injection.fillField providers pending.descriptor pending.record field now).2)
    (runs : ∀ hook ∈ pending.descriptor.methods, ∀ now,
      R now (Injection.runHook pending.descriptor pending.record hook now).2) :
    R world (Injection.serve providers pending world).2 := by
  have filled : R world (Injection.fillFields providers pending.descriptor pending.record
      pending.descriptor.fields world).2 := lasting.fillFields fills
  unfold Injection.serve
  generalize Injection.fillFields providers pending.descriptor pending.record
    pending.descriptor.fields world = answer at filled ⊢
  obtain ⟨outcome, next⟩ := answer
  cases outcome with
  | error cause => exact filled
  | ok done => exact lasting.trans filled (lasting.runHooks runs)

theorem serveAll (lasting : Lasting R) {waiting : List Pending} {world : World}
    (each : ∀ pending ∈ waiting, ∀ now, R now (Injection.serve providers pending now).2) :
    R world (Injection.serveAll providers waiting world).2 := by
  induction waiting generalizing world with
  | nil => exact lasting.refl world
  | cons pending rest ih =>
      obtain ⟨here, later⟩ := List.forall_mem_cons.mp each
      have first := here world
      rw [Injection.serveAll]
      generalize Injection.serve providers pending world = answer at first ⊢
      obtain ⟨outcome, next⟩ := answer
      cases outcome with
      | ok done => exact lasting.trans first (ih later)
      | error error =>
          have told := lasting.report next (failureEvent pending.descriptor.category
            pending.descriptor.name "Error injecting dependencies into" error)
          exact lasting.trans first (lasting.trans told (ih later))

end Lasting

end PluginHost
