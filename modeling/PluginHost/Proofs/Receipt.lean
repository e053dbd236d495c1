import PluginHost.Proofs.Serving

/-
This file says what it means that a field was injected while all waiting plugins were served, and
proves that the value is still in its slot when all of them have been served.
-/

namespace PluginHost.Injection

variable {providers : List ProviderRecord} {descriptor : Descriptor}
  {consumer : Record (Live Plugin)} {world start : World} {front back : List FieldInjection}
  {field : FieldInjection} {waiting : List Pending} {plugin : Pending}

/-- The field was injected into the plugin when the plugins in front of it had been served. -/
inductive Received (providers : List ProviderRecord) (waiting : List Pending) (start : World)
    (plugin : Pending) (field : FieldInjection) : Prop where
  | intro {before after : List Pending} {earlier later : List FieldInjection}
      (waits : waiting = before ++ plugin :: after)
      (declared : plugin.descriptor.fields = earlier ++ field :: later)
      (filled : (fillFields providers plugin.descriptor plugin.record (earlier ++ [field])
        (serveAll providers before start).2).1 = .ok ()) :
      Received providers waiting start plugin field

theorem Received.waits (received : Received providers waiting start plugin field) :
    plugin ∈ waiting := by
  obtain ⟨rfl, -, -⟩ := received
  exact List.mem_append_right _ List.mem_cons_self

theorem fillFields_append
    (filled : (fillFields providers descriptor consumer front world).1 = .ok ()) :
    fillFields providers descriptor consumer (front ++ back) world =
      fillFields providers descriptor consumer back
        (fillFields providers descriptor consumer front world).2 := by
  induction front generalizing world with
  | nil => rfl
  | cons field rest ih =>
      rw [List.cons_append, fillFields, fillFields]
      rw [fillFields] at filled
      generalize fillField providers descriptor consumer field world = answer at filled ⊢
      obtain ⟨outcome, next⟩ := answer
      cases outcome with
      | error cause => cases filled
      | ok done => exact ih filled

theorem fillFields_front
    (filled : (fillFields providers descriptor consumer (front ++ back) world).1 = .ok ()) :
    (fillFields providers descriptor consumer front world).1 = .ok () := by
  induction front generalizing world with
  | nil => rfl
  | cons field rest ih =>
      rw [List.cons_append, fillFields] at filled
      rw [fillFields]
      generalize fillField providers descriptor consumer field world = answer at filled ⊢
      obtain ⟨outcome, next⟩ := answer
      cases outcome with
      | error cause => cases filled
      | ok done => exact ih filled

theorem fillFields_singleton :
    fillFields providers descriptor consumer [field] world =
      fillField providers descriptor consumer field world := by
  rw [fillFields]
  generalize fillField providers descriptor consumer field world = answer
  obtain ⟨outcome, next⟩ := answer
  cases outcome <;> rfl

/-- A field that is filled holds what its provider has produced. -/
theorem fillField_holds
    (filled : (fillField providers descriptor consumer field world).1 = .ok ()) :
    Holds providers descriptor consumer world field
      (fillField providers descriptor consumer field world).2 := by
  unfold fillField at filled ⊢
  cases served : provider? providers field.provider with
  | none =>
      rw [served] at filled
      cases filled
  | some provider =>
      rw [served] at filled
      dsimp only at filled ⊢
      generalize asked : produce world provider descriptor.name consumer = answer at filled ⊢
      obtain ⟨produced, between⟩ := answer
      cases produced with
      | error cause => cases filled
      | ok value =>
          dsimp only at filled ⊢
          generalize delivered : deliver between consumer field.field value = reply at filled ⊢
          obtain ⟨outcome, after⟩ := reply
          cases outcome with
          | error cause => cases filled
          | ok done =>
              have reached : (deliver between consumer field.field value).1 = .ok () := by
                rw [delivered]
              have changed := content?_deliver reached field.field
              rw [delivered, if_pos rfl] at changed
              exact ⟨provider, value, served, by rw [asked], changed⟩

theorem serveAll_append (before after : List Pending) (world : World) :
    (serveAll providers (before ++ after) world).2 =
      (serveAll providers after (serveAll providers before world).2).2 := by
  induction before generalizing world with
  | nil => rfl
  | cons plugin rest ih =>
      rw [List.cons_append, serveAll, serveAll]
      generalize serve providers plugin world = answer
      obtain ⟨outcome, next⟩ := answer
      cases outcome with
      | ok done => exact ih next
      | error error => exact ih _

/-- What was received is held when everything has been served. -/
theorem Received.holds (received : Received providers waiting start plugin field)
    (writes : ∀ provider ∈ providers, provider.plugin.face.WriteOnce)
    (also : ∀ pending ∈ waiting, pending.record.plugin.face.WriteOnce) :
    ∃ now, Holds providers plugin.descriptor plugin.record now field
      (serveAll providers waiting start).2 := by
  have own := also plugin received.waits
  obtain @⟨before, after, earlier, later, rfl, declared, filled⟩ := received
  let met := (serveAll providers before start).2
  have passed := fillFields_front filled
  rw [fillFields_append passed, fillFields_singleton] at filled
  let asked := (fillFields providers plugin.descriptor plugin.record earlier met).2
  obtain ⟨provider, value, served, produced, held⟩ := fillField_holds filled
  have filling : World.Keeps
      (fillField providers plugin.descriptor plugin.record field asked).2
      (fillFields providers plugin.descriptor plugin.record plugin.descriptor.fields met).2 := by
    rw [declared, fillFields_append passed, ← List.singleton_append, fillFields_append]
    · rw [fillFields_singleton]
      exact fillFields_keeps writes later
    · rwa [fillFields_singleton]
  have others : World.Keeps (serve providers plugin met).2
      (serveAll providers (before ++ plugin :: after) start).2 := by
    rw [serveAll_append]
    exact serveAll_keeps_served writes plugin fun pending behind =>
      also pending (List.mem_append_right _ (List.mem_cons_of_mem _ behind))
  exact ⟨asked, provider, value, served, produced,
    others _ _ _ (serve_keeps_filled own _ _ _ (filling _ _ _ held))⟩

theorem serve_fills {pending : Pending} (done : (serve providers pending world).1 = .ok ()) :
    (fillFields providers pending.descriptor pending.record pending.descriptor.fields
      world).1 = .ok () := by
  unfold serve at done
  generalize fillFields providers pending.descriptor pending.record pending.descriptor.fields
    world = answer at done ⊢
  obtain ⟨outcome, next⟩ := answer
  cases outcome with
  | error cause => cases done
  | ok filled => rfl

/-- A plugin that fails is in the report. -/
theorem serveAll_reports {before after : List Pending} {error : PluginError}
    (failed : (serve providers plugin (serveAll providers before start).2).1 = .error error) :
    ⟨plugin.descriptor.name, plugin.descriptor.category, error⟩ ∈
      (serveAll providers (before ++ plugin :: after) start).1.failures := by
  induction before generalizing start with
  | nil =>
      rw [serveAll] at failed
      rw [List.nil_append, serveAll]
      generalize serve providers plugin start = answer at failed ⊢
      obtain ⟨outcome, next⟩ := answer
      cases failed
      exact List.mem_cons_self
  | cons first rest ih =>
      rw [serveAll] at failed
      rw [List.cons_append, serveAll]
      generalize serve providers first start = answer at failed ⊢
      obtain ⟨outcome, next⟩ := answer
      cases outcome with
      | ok done => exact ih failed
      | error cause => exact List.mem_cons_of_mem _ (ih failed)

/-- Whoever waits is reported, or has received all of its fields. -/
theorem received_or_reported (waits : plugin ∈ waiting) :
    (∃ failure ∈ (serveAll providers waiting start).1.failures,
        failure.plugin = plugin.descriptor.name ∧
          failure.category = plugin.descriptor.category) ∨
      ∀ field ∈ plugin.descriptor.fields, Received providers waiting start plugin field := by
  obtain ⟨before, after, rfl⟩ := List.append_of_mem waits
  cases served : (serve providers plugin (serveAll providers before start).2).1 with
  | error error => exact .inl ⟨_, serveAll_reports served, rfl, rfl⟩
  | ok done =>
      refine .inr fun field declared => ?_
      obtain ⟨earlier, later, split⟩ := List.append_of_mem declared
      have filled := serve_fills served
      rw [split, ← List.singleton_append, ← List.append_assoc] at filled
      exact .intro rfl split (fillFields_front filled)

end PluginHost.Injection
