import PluginHost.Proofs.Injection
import PluginHost.Proofs.Twins
import PluginHost.Proofs.WriteOnce

/-
This file says what the injection of one plugin leaves behind. It stops at a field, it stops at a
hook, or it comes to the end, and the slots of the plugin and the calls made tell which.
-/

namespace PluginHost

namespace World

/-- The calls made so far. -/
def calls (world : World) : List Call := world.journal.map JournalEntry.call

theorem calls_calledOn (world : World) (plugin : Plugin) (call : Call) :
    (world.calledOn plugin call).calls = world.calls ++ [call] :=
  List.map_append

/-- Only an instance in the world has slots. -/
theorem present_of_slots {world : World} {id : Nat} (slots : (world.memory id).slots ≠ []) :
    id < world.residents.length := by
  by_contra beyond
  have gone : world.residents[id]? = none := List.getElem?_eq_none (by omega)
  exact slots (by rw [World.memory, gone]; rfl)

end World

namespace Injection

variable {providers : List ProviderRecord} {descriptor : Descriptor}
  {consumer : Record (Live Plugin)} {world start left : World} {field : FieldInjection}
  {fields : List FieldInjection} {hook : MethodInjection} {hooks : List MethodInjection}
  {error : PluginError}

/-- What the slots of the consumer hold in a world. -/
def content? (consumer : Record (Live Plugin)) (world : World) (name : String) : Option Value :=
  (world.memory consumer.plugin.id).slots.content? name

theorem content?_of_residents {first second : World} {name : String}
    (same : first.residents = second.residents) :
    content? consumer first name = content? consumer second name := by
  rw [content?, World.memory, same]
  rfl

/-- A provider that is asked to serve itself leaves its slots alone. -/
def Untouched (providers : List ProviderRecord) (consumer : Record (Live Plugin)) : Prop :=
  ∀ provider ∈ providers, provider.plugin.id = consumer.plugin.id →
    ∀ (shown : Record Plugin) (memory : Memory),
      (provider.plugin.face.produce shown memory).memory.slots = memory.slots

/-- The calls that fill a field. -/
def fieldCalls (providers : List ProviderRecord) (consumer : Record (Live Plugin))
    (field : FieldInjection) : List Call :=
  match provider? providers field.provider with
  | none => []
  | some provider => [.produce provider.name consumer.name, .inject consumer.name field.field]

/-- The identity of the hook is listed once. -/
def unambiguous (descriptor : Descriptor) (hook : MethodInjection) : Bool :=
  timesTagged descriptor hook == 1

/-- The calls that run the hooks. -/
def hookCalls (descriptor : Descriptor) (consumer : Record (Live Plugin))
    (hooks : List MethodInjection) : List Call :=
  (hooks.filter (unambiguous descriptor)).map fun hook => .invoke consumer.name hook.method

/-- In the left world the field holds what its named provider produced for the consumer when it was
asked in the other world. -/
def Holds (providers : List ProviderRecord) (descriptor : Descriptor)
    (consumer : Record (Live Plugin)) (asked : World) (field : FieldInjection) (left : World) :
    Prop :=
  ∃ provider value, provider? providers field.provider = some provider ∧
    (produce asked provider descriptor.name consumer).1 = .ok value ∧
      content? consumer left field.field = some value.value

/-- Each field holds what was produced when the fields in front of it had been filled. -/
def AllHold (providers : List ProviderRecord) (descriptor : Descriptor)
    (consumer : Record (Live Plugin)) (start : World) (fields : List FieldInjection)
    (left : World) : Prop :=
  ∀ earlier field later, fields = earlier ++ field :: later →
    Holds providers descriptor consumer
      (fillFields providers descriptor consumer earlier start).2 field left

/-- Each unambiguous hook has returned when it was invoked after the hooks in front of it. -/
def AllRan (descriptor : Descriptor) (consumer : Record (Live Plugin)) (start : World)
    (hooks : List MethodInjection) : Prop :=
  ∀ earlier hook later, hooks = earlier ++ hook :: later → unambiguous descriptor hook = true →
    (invoke (runHooks descriptor consumer earlier start).2 consumer hook.method).1 =
      some (.done ())

/-- A provider that is asked changes no memory but its own. -/
theorem produce_memory_cases (world : World) (provider : ProviderRecord) (plugin : String)
    (consumer : Record (Live Plugin)) (other : Nat) :
    (produce world provider plugin consumer).2.memory other = world.memory other ∨
      provider.plugin.id = other ∧ (produce world provider plugin consumer).2.memory other =
        (provider.plugin.face.produce (consumer.map Live.face) (world.memory other)).memory := by
  rcases World.memory_settle_cases world provider.plugin.id
    (provider.plugin.face.produce (consumer.map Live.face) (world.memory provider.plugin.id))
    other with untouched | ⟨rfl, changed⟩
  · exact .inl untouched
  · exact .inr ⟨rfl, changed⟩

theorem content?_produce (alone : Untouched providers consumer) {provider : ProviderRecord}
    (listed : provider ∈ providers) (world : World) (plugin name : String) :
    content? consumer (produce world provider plugin consumer).2 name =
      content? consumer world name := by
  rcases produce_memory_cases world provider plugin consumer consumer.plugin.id with
    untouched | ⟨same, changed⟩
  · rw [content?, untouched, content?]
  · rw [content?, changed, alone provider listed same, content?]

theorem calls_produce (world : World) (provider : ProviderRecord) (plugin : String)
    (consumer : Record (Live Plugin)) :
    (produce world provider plugin consumer).2.calls =
      world.calls ++ [.produce provider.name consumer.name] :=
  world.calls_calledOn ..

theorem calls_deliver (world : World) (consumer : Record (Live Plugin)) (name : String)
    (value : Provided) :
    (deliver world consumer name value).2.calls =
      world.calls ++ [.inject consumer.name name] := by
  unfold deliver
  dsimp only
  split <;> exact world.calls_calledOn ..

theorem deliver_filled {name : String} {value : Provided} {slots : Slots}
    (filled : (world.memory consumer.plugin.id).slots.inject name value = .ok slots) :
    deliver world consumer name value =
      (.ok (), (world.calledOn consumer.plugin.face (.inject consumer.name name)).setMemory
        consumer.plugin.id { world.memory consumer.plugin.id with slots := slots }) := by
  have kept : (world.calledOn consumer.plugin.face (.inject consumer.name name)).memory
    consumer.plugin.id = world.memory consumer.plugin.id := rfl
  unfold deliver
  dsimp only
  rw [kept, filled]

theorem deliver_refused {name : String} {value : Provided} {cause : InjectionError}
    (refused : (world.memory consumer.plugin.id).slots.inject name value = .error cause) :
    deliver world consumer name value =
      (.error cause, world.calledOn consumer.plugin.face (.inject consumer.name name)) := by
  have kept : (world.calledOn consumer.plugin.face (.inject consumer.name name)).memory
    consumer.plugin.id = world.memory consumer.plugin.id := rfl
  unfold deliver
  dsimp only
  rw [kept, refused]

theorem content?_deliver_error {name : String} {value : Provided} {cause : InjectionError}
    (refused : (deliver world consumer name value).1 = .error cause) (other : String) :
    content? consumer (deliver world consumer name value).2 other =
      content? consumer world other := by
  rw [deliver_refused (deliver_error refused)]
  rfl

/-- A value that is delivered is in the slot of its name, and nothing else has changed. -/
theorem content?_deliver {name : String} {value : Provided}
    (delivered : (deliver world consumer name value).1 = .ok ()) (other : String) :
    content? consumer (deliver world consumer name value).2 other =
      if other = name then some value.value else content? consumer world other := by
  cases filled : (world.memory consumer.plugin.id).slots.inject name value with
  | error cause =>
      rw [deliver_refused filled] at delivered
      cases delivered
  | ok slots =>
      have present : consumer.plugin.id < world.residents.length := by
        apply World.present_of_slots
        intro none
        rw [none] at filled
        cases filled
      have changed := World.memory_setMemory
        (world.calledOn consumer.plugin.face (.inject consumer.name name)) present
        { world.memory consumer.plugin.id with slots := slots } consumer.plugin.id
      rw [deliver_filled filled, content?, changed, if_pos rfl]
      exact (Slots.content?_inject filled).2 other

theorem fieldCalls_of_provider (consumer : Record (Live Plugin)) {provider : ProviderRecord}
    (served : provider? providers field.provider = some provider) :
    fieldCalls providers consumer field =
      [.produce provider.name consumer.name, .inject consumer.name field.field] := by
  rw [fieldCalls, served]

/-- What filling one field has come to, in a world that was left so. -/
inductive Filling (providers : List ProviderRecord) (descriptor : Descriptor)
    (consumer : Record (Live Plugin)) (world : World) (field : FieldInjection) :
    Except PluginError Unit × World → Prop where
  | filled {left : World} (holds : Holds providers descriptor consumer world field left)
      (others : ∀ name, name ≠ field.field →
        content? consumer left name = content? consumer world name)
      (calls : left.calls = world.calls ++ fieldCalls providers consumer field) :
      Filling providers descriptor consumer world field (.ok (), left)
  | stopped {error : PluginError} {left : World}
      (failure : FieldFailure providers descriptor consumer field world error)
      (kept : ∀ name, content? consumer left name = content? consumer world name)
      {attempted : List Call} (begun : attempted <+: fieldCalls providers consumer field)
      (calls : left.calls = world.calls ++ attempted) :
      Filling providers descriptor consumer world field (.error error, left)

theorem fillField_filling (descriptor : Descriptor) (alone : Untouched providers consumer)
    (world : World) (field : FieldInjection) :
    Filling providers descriptor consumer world field
      (fillField providers descriptor consumer field world) := by
  unfold fillField
  cases served : provider? providers field.provider with
  | none =>
      exact .stopped (.unresolved served) (fun _ => rfl) List.nil_prefix (List.append_nil _).symm
  | some provider =>
      have listed : provider ∈ providers := (provider?_spec served).1
      have asked := content?_produce alone listed world descriptor.name
      have noted := calls_produce world provider descriptor.name consumer
      have both := fieldCalls_of_provider consumer served
      dsimp only
      generalize answered : produce world provider descriptor.name consumer = answer
        at asked noted ⊢
      obtain ⟨produced, between⟩ := answer
      cases produced with
      | error cause =>
          refine .stopped (.unproduced served (by rw [answered])) asked ?_ noted
          rw [both]
          exact ⟨[_], rfl⟩
      | ok value =>
          have told := calls_deliver between consumer field.field value
          rw [noted, List.append_assoc] at told
          dsimp only
          generalize delivered : deliver between consumer field.field value = reply at told ⊢
          obtain ⟨outcome, after⟩ := reply
          cases outcome with
          | error cause =>
              have refused : (deliver between consumer field.field value).1 = .error cause := by
                rw [delivered]
              have kept := content?_deliver_error refused
              rw [delivered] at kept
              refine .stopped (.undelivered served (by rw [answered]) (by rw [answered, refused]))
                (fun name => (kept name).trans (asked name)) ?_ told
              rw [both]
              exact List.prefix_rfl
          | ok done =>
              have reached : (deliver between consumer field.field value).1 = .ok () := by
                rw [delivered]
              have changed := content?_deliver reached
              rw [delivered] at changed
              refine .filled ⟨provider, value, served, by rw [answered], ?_⟩ ?_ ?_
              · exact (changed field.field).trans (if_pos rfl)
              · exact fun name other => ((changed name).trans (if_neg other)).trans (asked name)
              · rw [both]
                exact told

/-- Filling several fields has come to its end. -/
structure Filled (providers : List ProviderRecord) (descriptor : Descriptor)
    (consumer : Record (Live Plugin)) (start : World) (fields : List FieldInjection)
    (left : World) : Prop where
  hold : AllHold providers descriptor consumer start fields left
  others : ∀ name, name ∉ fields.map FieldInjection.field →
    content? consumer left name = content? consumer start name
  calls : left.calls = start.calls ++ fields.flatMap (fieldCalls providers consumer)

theorem fillFields_filled (alone : Untouched providers consumer)
    (distinct : (fields.map FieldInjection.field).Nodup)
    (done : (fillFields providers descriptor consumer fields start).1 = .ok ()) :
    Filled providers descriptor consumer start fields
      (fillFields providers descriptor consumer fields start).2 := by
  induction fields generalizing start with
  | nil =>
      refine ⟨fun earlier field later absurd => ?_, fun _ _ => rfl, (List.append_nil _).symm⟩
      cases earlier <;> cases absurd
  | cons field rest ih =>
      obtain ⟨fresh, distinct⟩ := List.nodup_cons.mp distinct
      have filling := fillField_filling descriptor alone start field
      rw [fillFields] at done ⊢
      generalize ran : fillField providers descriptor consumer field start = answer
        at filling done ⊢
      cases filling with
      | stopped => cases done
      | @filled next holds others calls =>
          have later := ih distinct done
          refine ⟨?_, ?_, ?_⟩
          · intro earlier one behind split
            rcases List.cons_eq_append_iff.mp split with ⟨rfl, same⟩ | ⟨front, rfl, same⟩
            · cases same
              obtain ⟨provider, value, served, produced, held⟩ := holds
              exact ⟨provider, value, served, produced, (later.others _ fresh).trans held⟩
            · rw [fillFields, ran]
              exact later.hold front one behind same
          · intro name other
            rw [List.map_cons, List.mem_cons, not_or] at other
            exact (later.others name other.2).trans (others name other.1)
          · rw [List.flatMap_cons, ← List.append_assoc, ← calls]
            exact later.calls

/-- The first field that fails stops the filling. -/
theorem fillFields_stopped
    (failed : fillFields providers descriptor consumer fields start = (.error error, left)) :
    ∃ before field after, fields = before ++ field :: after ∧
      (fillFields providers descriptor consumer before start).1 = .ok () ∧
        fillField providers descriptor consumer field
          (fillFields providers descriptor consumer before start).2 = (.error error, left) := by
  induction fields generalizing start with
  | nil => cases failed
  | cons field rest ih =>
      rw [fillFields] at failed
      generalize ran : fillField providers descriptor consumer field start = answer at failed
      obtain ⟨outcome, next⟩ := answer
      cases outcome with
      | error cause => exact ⟨[], field, rest, rfl, rfl, ran.trans failed⟩
      | ok done =>
          obtain ⟨before, one, after, rfl, passed, stopped⟩ := ih failed
          refine ⟨field :: before, one, after, rfl, ?_, ?_⟩
          · rw [fillFields, ran]
            exact passed
          · rw [fillFields, ran]
            exact stopped

theorem calls_invoke (world : World) (consumer : Record (Live Plugin)) (method : String) :
    (invoke world consumer method).2.calls =
      world.calls ++ [.invoke consumer.name method] := by
  unfold invoke
  dsimp only
  split <;> exact world.calls_calledOn ..

/-- What running one hook has come to. -/
inductive Running (descriptor : Descriptor) (consumer : Record (Live Plugin)) (world : World)
    (hook : MethodInjection) : Except PluginError Unit × World → Prop where
  | skipped {left : World} (repeated : unambiguous descriptor hook = false)
      (calls : left.calls = world.calls) :
      Running descriptor consumer world hook (.ok (), left)
  | ran {left : World} (single : unambiguous descriptor hook = true)
      (returned : (invoke world consumer hook.method).1 = some (.done ()))
      (calls : left.calls = world.calls ++ [.invoke consumer.name hook.method]) :
      Running descriptor consumer world hook (.ok (), left)
  | stopped {error : PluginError} {left : World} (single : unambiguous descriptor hook = true)
      (unreturned : (invoke world consumer hook.method).1 ≠ some (.done ()))
      (failure : HookFailure descriptor hook error)
      (calls : left.calls = world.calls ++ [.invoke consumer.name hook.method]) :
      Running descriptor consumer world hook (.error error, left)

theorem runHook_running (descriptor : Descriptor) (consumer : Record (Live Plugin))
    (world : World) (hook : MethodInjection) :
    Running descriptor consumer world hook (runHook descriptor consumer hook world) := by
  unfold runHook
  dsimp only
  by_cases tagged : timesTagged descriptor hook = 1
  · have single : unambiguous descriptor hook = true := beq_iff_eq.mpr tagged
    have noted := calls_invoke world consumer hook.method
    rw [if_neg (not_not_intro tagged)]
    generalize invoked : invoke world consumer hook.method = answer at noted ⊢
    obtain ⟨outcome, next⟩ := answer
    rcases outcome with _ | ⟨_ | cause | panic⟩
    · exact .stopped single (by rw [invoked]; exact fun absurd => by cases absurd) .missing noted
    · exact .ran single (by rw [invoked]) noted
    · exact .stopped single (by rw [invoked]; exact fun absurd => by cases absurd)
        (.failed cause) noted
    · exact .stopped single (by rw [invoked]; exact fun absurd => by cases absurd)
        (.panicked panic) noted
  · rw [if_pos tagged]
    exact .skipped (beq_eq_false_iff_ne.mpr tagged) rfl

theorem runHooks_ran (done : (runHooks descriptor consumer hooks start).1 = .ok ()) :
    AllRan descriptor consumer start hooks ∧
      (runHooks descriptor consumer hooks start).2.calls =
        start.calls ++ hookCalls descriptor consumer hooks := by
  induction hooks generalizing start with
  | nil =>
      refine ⟨fun earlier hook later absurd => ?_, (List.append_nil _).symm⟩
      cases earlier <;> cases absurd
  | cons hook rest ih =>
      have running := runHook_running descriptor consumer start hook
      rw [runHooks] at done ⊢
      generalize ran : runHook descriptor consumer hook start = answer at running done ⊢
      obtain ⟨outcome, next⟩ := answer
      cases outcome with
      | error cause => cases done
      | ok ended =>
          obtain ⟨later, calls⟩ := ih done
          constructor
          · intro earlier one behind split single
            rcases List.cons_eq_append_iff.mp split with ⟨rfl, same⟩ | ⟨front, rfl, same⟩
            · cases same
              cases running with
              | skipped repeated => cases repeated.symm.trans single
              | ran _ returned => exact returned
            · rw [runHooks, ran]
              exact later front one behind same single
          · refine calls.trans ?_
            cases running with
            | skipped repeated noted =>
                rw [noted, hookCalls, hookCalls, List.filter_cons_of_neg (by rw [repeated]; simp)]
            | ran single _ noted =>
                rw [noted, hookCalls, hookCalls, List.filter_cons_of_pos single, List.map_cons,
                  List.append_assoc]
                rfl

/-- The first hook that fails stops the hooks behind it. -/
theorem runHooks_stopped
    (failed : runHooks descriptor consumer hooks start = (.error error, left)) :
    ∃ before hook after, hooks = before ++ hook :: after ∧
      (runHooks descriptor consumer before start).1 = .ok () ∧
        runHook descriptor consumer hook (runHooks descriptor consumer before start).2 =
          (.error error, left) := by
  induction hooks generalizing start with
  | nil => cases failed
  | cons hook rest ih =>
      rw [runHooks] at failed
      generalize ran : runHook descriptor consumer hook start = answer at failed
      obtain ⟨outcome, next⟩ := answer
      cases outcome with
      | error cause => exact ⟨[], hook, rest, rfl, rfl, ran.trans failed⟩
      | ok done =>
          obtain ⟨before, one, after, rfl, passed, stopped⟩ := ih failed
          refine ⟨hook :: before, one, after, rfl, ?_, ?_⟩
          · rw [runHooks, ran]
            exact passed
          · rw [runHooks, ran]
            exact stopped

/-- No identity stands behind two of the hooks that run. -/
theorem unambiguous_nodup (descriptor : Descriptor) :
    ((descriptor.methods.filter (unambiguous descriptor)).map MethodInjection.identity).Nodup := by
  rw [List.nodup_iff_count_le_one]
  intro identity
  by_cases listed : identity ∈
      (descriptor.methods.filter (unambiguous descriptor)).map MethodInjection.identity
  · obtain ⟨hook, chosen, rfl⟩ := List.mem_map.mp listed
    have once : timesTagged descriptor hook = 1 := beq_iff_eq.mp (List.mem_filter.mp chosen).2
    rw [List.count, List.countP_map, ← once, timesTagged, ← List.countP_eq_length_filter]
    exact List.filter_sublist.countP_le
  · rw [List.count_eq_zero_of_not_mem listed]
    exact Nat.zero_le 1

/-- Where the injection of a plugin stops, and the world that it leaves there. -/
inductive Stops (providers : List ProviderRecord) (descriptor : Descriptor)
    (consumer : Record (Live Plugin)) (start : World) : Except PluginError Unit × World → Prop where
  | field {before after : List FieldInjection} {field : FieldInjection} {error : PluginError}
      {left : World} {attempted : List Call}
      (declared : descriptor.fields = before ++ field :: after)
      (failure : FieldFailure providers descriptor consumer field
        (fillFields providers descriptor consumer before start).2 error)
      (hold : AllHold providers descriptor consumer start before left)
      (unset : ∀ other ∈ field :: after, content? consumer left other.field = none)
      (begun : attempted <+: fieldCalls providers consumer field)
      (calls : left.calls =
        start.calls ++ before.flatMap (fieldCalls providers consumer) ++ attempted) :
      Stops providers descriptor consumer start (.error error, left)
  | hook {before after : List MethodInjection} {hook : MethodInjection} {error : PluginError}
      {filled left : World}
      (filling : fillFields providers descriptor consumer descriptor.fields start =
        (.ok (), filled))
      (hold : AllHold providers descriptor consumer start descriptor.fields left)
      (declared : descriptor.methods = before ++ hook :: after)
      (ran : AllRan descriptor consumer filled before)
      (single : unambiguous descriptor hook = true)
      (unreturned : (invoke (runHooks descriptor consumer before filled).2 consumer
        hook.method).1 ≠ some (.done ()))
      (failure : HookFailure descriptor hook error)
      (calls : left.calls =
        start.calls ++ descriptor.fields.flatMap (fieldCalls providers consumer) ++
          hookCalls descriptor consumer before ++ [.invoke consumer.name hook.method]) :
      Stops providers descriptor consumer start (.error error, left)
  | finished {filled left : World}
      (filling : fillFields providers descriptor consumer descriptor.fields start =
        (.ok (), filled))
      (hold : AllHold providers descriptor consumer start descriptor.fields left)
      (ran : AllRan descriptor consumer filled descriptor.methods)
      (once : ((descriptor.methods.filter (unambiguous descriptor)).map
        MethodInjection.identity).Nodup)
      (calls : left.calls =
        start.calls ++ descriptor.fields.flatMap (fieldCalls providers consumer) ++
          hookCalls descriptor consumer descriptor.methods) :
      Stops providers descriptor consumer start (.ok (), left)

theorem AllHold.later {between : World}
    (keeps : (between.memory consumer.plugin.id).Keeps (left.memory consumer.plugin.id))
    (hold : AllHold providers descriptor consumer start fields between) :
    AllHold providers descriptor consumer start fields left := by
  intro earlier field later split
  obtain ⟨provider, value, served, produced, held⟩ := hold earlier field later split
  exact ⟨provider, value, served, produced, keeps _ _ held⟩

/-- A field that fails leaves the fields before it filled and all the others empty. -/
theorem stops_at_field {pending : Pending} {world filled : World}
    (distinct : (pending.descriptor.fields.map FieldInjection.field).Nodup)
    (empty : ∀ field ∈ pending.descriptor.fields,
      content? pending.record world field.field = none)
    (alone : Untouched providers pending.record)
    (filling : fillFields providers pending.descriptor pending.record pending.descriptor.fields
      world = (.error error, filled)) :
    Stops providers pending.descriptor pending.record world (.error error, filled) := by
  obtain ⟨before, field, after, declared, passed, stopped⟩ := fillFields_stopped filling
  rw [declared, List.map_append] at distinct
  obtain ⟨front, -, apart⟩ := List.nodup_append.mp distinct
  have earlier := fillFields_filled alone front passed
  have last := fillField_filling pending.descriptor alone
    (fillFields providers pending.descriptor pending.record before world).2 field
  rw [stopped] at last
  cases last with
  | stopped failure kept begun calls =>
      refine .field declared failure ?_ ?_ begun ?_
      · exact earlier.hold.later fun name value held => (kept name).trans held
      · intro other behind
        have fresh : other.field ∉ before.map FieldInjection.field := fun passed =>
          apart _ passed _ (List.mem_map_of_mem behind) rfl
        have listed : other ∈ pending.descriptor.fields := by
          rw [declared]
          exact List.mem_append_right _ behind
        exact ((kept _).trans (earlier.others _ fresh)).trans (empty other listed)
      · rw [calls, earlier.calls]

/-- Once all fields are filled they stay so, and the hooks run up to the first that fails. -/
theorem stops_behind_fields {pending : Pending} {world filled : World}
    (distinct : (pending.descriptor.fields.map FieldInjection.field).Nodup)
    (writes : pending.record.plugin.face.WriteOnce) (alone : Untouched providers pending.record)
    (filling : fillFields providers pending.descriptor pending.record pending.descriptor.fields
      world = (.ok (), filled)) :
    Stops providers pending.descriptor pending.record world
      (runHooks pending.descriptor pending.record pending.descriptor.methods filled) := by
  have all := fillFields_filled alone distinct (by rw [filling])
  rw [filling] at all
  have keeps : World.Keeps filled (runHooks pending.descriptor pending.record
    pending.descriptor.methods filled).2 := runHooks_keeps writes _
  generalize running : runHooks pending.descriptor pending.record pending.descriptor.methods
    filled = answer at keeps ⊢
  obtain ⟨outcome, left⟩ := answer
  have hold := all.hold.later (keeps pending.record.plugin.id)
  cases outcome with
  | error error =>
      obtain ⟨before, hook, after, declared, passed, stopped⟩ := runHooks_stopped running
      obtain ⟨ran, earlier⟩ := runHooks_ran passed
      have last := runHook_running pending.descriptor pending.record
        (runHooks pending.descriptor pending.record before filled).2 hook
      rw [stopped] at last
      cases last with
      | stopped single unreturned failure calls =>
          refine .hook filling hold declared ran single unreturned failure ?_
          rw [calls, earlier, all.calls]
  | ok ended =>
      obtain ⟨ran, calls⟩ := runHooks_ran (by rw [running])
      rw [running, all.calls] at calls
      exact .finished filling hold ran (unambiguous_nodup _) calls

/-- The injection of a plugin whose slots are written once and are still empty leaves what the
place where it stops says. -/
theorem serve_stops {pending : Pending} {world : World}
    (distinct : (pending.descriptor.fields.map FieldInjection.field).Nodup)
    (empty : ∀ field ∈ pending.descriptor.fields,
      content? pending.record world field.field = none)
    (writes : pending.record.plugin.face.WriteOnce)
    (alone : Untouched providers pending.record) :
    Stops providers pending.descriptor pending.record world (serve providers pending world) := by
  unfold serve
  generalize filling : fillFields providers pending.descriptor pending.record
    pending.descriptor.fields world = answer
  obtain ⟨outcome, filled⟩ := answer
  cases outcome with
  | error error => exact stops_at_field distinct empty alone filling
  | ok done => exact stops_behind_fields distinct writes alone filling

/-- A provider of texts. -/
def texts : ProviderRecord where
  registration := { name := "texts" }
  implementation := "Texts"
  config := none
  enabled := true
  plugin := ⟨0, {
    producedType := .ok ⟨"String"⟩
    produce := fun shown memory => ⟨.done ⟨⟨"String"⟩, .text shown.name⟩, memory, []⟩ }⟩

/-- An engine with a hook that is listed twice and a hook that panics. -/
def engine : Pending :=
  let wiring : Wiring :=
    { title := "Engine"
      fields := [⟨"fuel", ⟨"String"⟩, "texts"⟩, ⟨"spark", ⟨"String"⟩, "texts"⟩]
      hooks := ["prime", "turn", "burst", "turn", "coast"] }
  let face : Plugin := wiring.plugin fun method memory =>
    ⟨if method = "burst" then .panicked (.text "hot") else .done (), memory, []⟩
  let descriptor : Descriptor := wiring.descriptor "demo" .service { name := "engine" }
  ⟨descriptor, .make descriptor [] ⟨1, face⟩⟩

/-- The panic leaves both fields filled, one hook run and one hook not reached. -/
theorem serve_stops_of_bursting :
    let housed := ((({} : World).enroll "texts" {} ()).2.enroll "engine"
      engine.record.plugin.face ()).2
    (engine.descriptor.fields.map FieldInjection.field).Nodup ∧
      engine.record.plugin.face.WriteOnce ∧ Untouched [texts] engine.record ∧
      engine.descriptor.methods.map (unambiguous engine.descriptor) =
        [true, false, true, false, true] ∧
      (serve [texts] engine housed).2.calls.length = 6 ∧
      Stops [texts] engine.descriptor engine.record housed (serve [texts] engine housed) := by
  intro housed
  have distinct : (engine.descriptor.fields.map FieldInjection.field).Nodup := by decide
  have empty : ∀ field ∈ engine.descriptor.fields,
      content? engine.record housed field.field = none := fun field _ => Slots.content?_empty _ _
  have writes : engine.record.plugin.face.WriteOnce :=
    Wiring.plugin_writeOnce fun _ memory => .refl memory
  have alone : Untouched [texts] engine.record := by
    intro provider listed same
    rw [List.mem_singleton.mp listed] at same
    cases same
  exact ⟨distinct, writes, alone, by decide +kernel, by decide +kernel,
    serve_stops distinct empty writes alone⟩

end Injection

end PluginHost
