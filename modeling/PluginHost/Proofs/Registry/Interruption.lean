import PluginHost.Proofs.Startup.Runs

/-
This file follows the lists of interceptors that are kept when a removal is cut short. A panic
comes between the change of a list and the call that drops the views, so they can be those of
earlier lists.
-/

namespace PluginHost.Registry

/-- What a lookup that finds nothing kept computes from the current lists. -/
def computed (registry : Registry) (key : ViewKey) : List ExchangerRecord :=
  Interception.view registry.interceptors registry.services key

/-- Views are dropped by a change that ends. -/
def Visit.drops (visit : Visit) : Bool := visit.changes && visit.ends

def Visit.removes (visit : Visit) : Bool :=
  match visit.operation with
  | .ask (.removeServices _) => true
  | .ask (.removeInterceptors _) => true
  | _ => false

/-- The registry that was first asked for the key since views were last dropped. -/
def origin? (visited : List Visit) (key : ViewKey) : Option Registry :=
  ((visited.rtakeWhile fun visit => !visit.drops).find? fun visit =>
    decide (key ∈ visit.keys)).map Visit.registry

variable {registry left : Registry} {visited visits before after : List Visit} {visit : Visit}

theorem origin?_concat (visited : List Visit) (visit : Visit) (key : ViewKey) :
    origin? (visited ++ [visit]) key =
      if visit.drops then none
      else (origin? visited key).or (if key ∈ visit.keys then some visit.registry else none) := by
  rw [origin?, List.rtakeWhile_concat]
  cases visit.drops with
  | true => rfl
  | false =>
      rw [Bool.not_false, if_pos rfl, if_neg Bool.false_ne_true, List.find?_append, Option.map_or]
      by_cases asked : key ∈ visit.keys <;> simp [origin?, asked]

/-- A removal drops the views when it returns and has removed something, and leaves them as they
are when it panics. -/
theorem removed_views (earlier later : List ExchangerRecord) (panic : Option Panic)
    (views : ViewCache ExchangerRecord) :
    let removal := removed earlier later panic views
    removal.2 = if (decide (later.length < earlier.length) && removal.1.isOk) = true
      then views.invalidate else views := by
  cases panic with
  | some panic => simp [removed, Except.isOk, Except.toBool]
  | none =>
      simp only [removed, Except.isOk, Except.toBool, Nat.sub_pos_iff_lt, Bool.and_true,
        decide_eq_true_eq]

theorem removeServices_views (present : registry.assembly.isSome = true) (selects : Selection) :
    (registry.perform (.ask (.removeServices selects))).2.views =
      if Visit.drops ⟨registry, .ask (.removeServices selects)⟩ = true
        then registry.views.invalidate else registry.views := by
  simp only [Visit.drops, Visit.changes, Visit.ends, perform, carryOut, removeServices,
    assembled_eq present, isOk_map]
  exact removed_views ..

theorem removeInterceptors_views (present : registry.assembly.isSome = true)
    (selects : Selection) :
    (registry.perform (.ask (.removeInterceptors selects))).2.views =
      if Visit.drops ⟨registry, .ask (.removeInterceptors selects)⟩ = true
        then registry.views.invalidate else registry.views := by
  simp only [Visit.drops, Visit.changes, Visit.ends, perform, carryOut, removeInterceptors,
    assembled_eq present, isOk_map]
  exact removed_views ..

/-- A lookup keeps a view for its key, unless there is one. -/
theorem lookUp_views (present : registry.assembly.isSome = true) (service : Option String)
    (point : InterceptPoint) :
    let left := (registry.lookUp service point).2
    left.assembly.isSome = true ∧ left.computed = registry.computed ∧
      ∀ key, left.views.view? key = (registry.views.view? key).or
        (if key = (service, point) then some (registry.computed key) else none) := by
  obtain ⟨-, world, -, after⟩ := lookUp_spec present service point
  intro left
  have same : left = _ := after
  rw [same]
  refine ⟨present, rfl, fun key => ?_⟩
  refine (ViewCache.view?_store registry.views (service, point) _ key).trans ?_
  by_cases asked : key = (service, point)
  · rw [asked]
    rfl
  · rw [if_neg asked, if_neg asked]

theorem interceptorsFor_eq (present : registry.assembly.isSome = true) (service : Option String)
    (point : InterceptPoint) :
    (registry.interceptorsFor service point).1 =
      (registry.views.view? (service, point)).getD (registry.computed (service, point)) :=
  (lookUp_spec present service point).1.trans (ViewCache.store_fst ..)

/-- What an operation does to the views. -/
theorem perform_views (present : registry.assembly.isSome = true) (operation : Operation) :
    let left := (registry.perform operation).2
    left.assembly.isSome = true ∧ ∀ key, left.views.view? key =
      if Visit.drops ⟨registry, operation⟩ = true then none
      else (registry.views.view? key).or
        (if key ∈ Visit.keys ⟨registry, operation⟩ then some (registry.computed key)
          else none) := by
  have asked : registry.assembled.assembly.isSome = true ∧
      ∀ key, registry.assembled.views.view? key = (registry.views.view? key).or none := by
    rw [assembled_eq present]
    exact ⟨present, fun _ => Option.or_none.symm⟩
  have removed {removal : Registry} {gone : Bool} (views : removal.views =
      if gone = true then registry.views.invalidate else registry.views) (key : ViewKey) :
      removal.views.view? key =
        if gone = true then none else (registry.views.view? key).or none := by
    rw [views, Option.or_none]
    cases gone <;> rfl
  cases operation with
  | addService record => exact ⟨assembled_present _, fun _ => rfl⟩
  | addInterceptor record => exact ⟨assembled_present _, fun _ => rfl⟩
  | ask request =>
      cases request with
      | services => exact asked
      | interceptors => exact asked
      | interceptorsFor service point =>
          obtain ⟨present, -, views⟩ := lookUp_views present service point
          refine ⟨present, fun key => (views key).trans ?_⟩
          simp [Visit.drops, Visit.changes, Visit.keys]
      | sharesView service point =>
          obtain ⟨present, same, views⟩ := lookUp_views present service point
          obtain ⟨present, -, again⟩ := lookUp_views present service point
          refine ⟨present, fun key => (again key).trans ?_⟩
          rw [views key, same, Option.or_assoc, Option.or_self]
          simp [Visit.drops, Visit.changes, Visit.keys]
      | addService descriptor sections face => exact ⟨assembled_present _, fun _ => rfl⟩
      | addInterceptor descriptor sections face => exact ⟨assembled_present _, fun _ => rfl⟩
      | removeServices selects =>
          exact ⟨assembled_present _, removed (removeServices_views present selects)⟩
      | removeInterceptors selects =>
          exact ⟨assembled_present _, removed (removeInterceptors_views present selects)⟩

/-- After the visits, the views that are kept are those that were computed when their keys were
first asked for. -/
structure Recalls (registry : Registry) (visited : List Visit) : Prop where
  present : registry.assembly.isSome = true
  kept : ∀ key, registry.views.view? key =
    (origin? visited key).map fun origin => origin.computed key

namespace Recalls

theorem start (discovery : Discovery) (sections : Sections) (world : World) :
    Recalls (create discovery sections world).assembled [] where
  present := assembled_present _
  kept _ := rfl

theorem setWorld (recalls : Recalls registry visited) (world : World) :
    Recalls (registry.setWorld world) visited :=
  ⟨recalls.present, recalls.kept⟩

theorem perform (recalls : Recalls registry visited) (operation : Operation) :
    Recalls (registry.perform operation).2 (visited ++ [⟨registry, operation⟩]) := by
  obtain ⟨present, views⟩ := perform_views recalls.present operation
  refine ⟨present, fun key => ?_⟩
  rw [views key, origin?_concat, recalls.kept key]
  split
  · rfl
  · rw [Option.map_or]
    congr 1
    split <;> rfl

/-- An answer is what the lists gave that the key was first asked of. -/
theorem answer (recalls : Recalls registry visited) (service : Option String)
    (point : InterceptPoint) :
    (registry.interceptorsFor service point).1 =
      ((origin? visited (service, point)).getD registry).computed (service, point) := by
  rw [interceptorsFor_eq recalls.present, recalls.kept]
  cases origin? visited (service, point) <;> rfl

theorem performs (recalls : Recalls registry visited) (performs : Performs registry visits left) :
    Recalls left (visited ++ visits) := by
  induction performs generalizing visited with
  | still world =>
      rw [List.append_nil]
      exact recalls.setWorld world
  | visit world rest ih =>
      have more := ih ((recalls.setWorld world).perform _)
      rwa [List.append_assoc] at more

end Recalls

/-- Up to a removal that is cut short, views are those of the current lists. -/
theorem Performs.tracks (performs : Performs registry visits left)
    (tracks : Tracks registry (recentKeys visited)) (sound : ∀ visit ∈ visits, visit.Sound) :
    Tracks left (recentKeys (visited ++ visits)) := by
  induction performs generalizing visited with
  | still world =>
      rw [List.append_nil]
      exact tracks.setWorld world
  | visit world rest ih =>
      have first := (tracks.setWorld world).perform (sound _ List.mem_cons_self)
      rw [← recentKeys_concat] at first
      have more := ih first fun visit member => sound visit (List.mem_cons_of_mem _ member)
      rwa [List.append_assoc] at more

/-- A removal that leaves as many records as there were leaves the same ones. -/
theorem computed_of_unchanged (present : visit.registry.assembly.isSome = true)
    (removes : visit.removes = true) (unchanged : visit.changes = false) :
    (visit.registry.perform visit.operation).2.computed = visit.registry.computed := by
  obtain ⟨registry, operation⟩ := visit
  dsimp only at present ⊢
  cases operation with
  | addService record => cases removes
  | addInterceptor record => cases removes
  | ask request =>
      cases request with
      | removeServices selects =>
          have whole := of_decide_eq_false unchanged
          simp only [removeServices, assembled_eq present, not_lt] at whole
          have same := (retain_sublist selects registry.services).eq_of_length_le whole
          simp only [perform, carryOut, removeServices, assembled_eq present, same]
          rfl
      | removeInterceptors selects =>
          have whole := of_decide_eq_false unchanged
          simp only [removeInterceptors, assembled_eq present, not_lt] at whole
          have same := (retain_sublist selects registry.interceptors).eq_of_length_le whole
          simp only [perform, carryOut, removeInterceptors, assembled_eq present, same]
          rfl
      | _ => cases removes

theorem Visit.keys_of_removes (removes : visit.removes = true) : visit.keys = [] := by
  obtain ⟨registry, operation⟩ := visit
  cases operation with
  | addService record => rfl
  | addInterceptor record => rfl
  | ask request => cases request <;> first | rfl | cases removes

/-- If all is up to date when a removal starts, a key finds an old list exactly when the removal
panics, the key has been asked for since the last change, and its list is no longer the same. -/
theorem Tracks.answer_after_removal {recent : List ViewKey}
    (tracks : Tracks visit.registry recent) (removes : visit.removes = true)
    (service : Option String) (point : InterceptPoint) :
    let left := (visit.registry.perform visit.operation).2
    (left.interceptorsFor service point).1 = left.computed (service, point) ↔
      visit.ends = true ∨ (service, point) ∉ recent ∨
        visit.registry.computed (service, point) = left.computed (service, point) := by
  intro left
  obtain ⟨present, views⟩ := perform_views tracks.present visit.operation
  rw [interceptorsFor_eq present, views, Visit.keys_of_removes removes, if_neg List.not_mem_nil,
    Option.or_none]
  by_cases drops : visit.drops = true
  · rw [if_pos drops]
    exact iff_of_true rfl (.inl (Bool.and_eq_true_iff.mp drops).2)
  · rw [if_neg drops]
    cases kept : visit.registry.views.view? (service, point) with
    | none =>
        have new : (service, point) ∉ recent := fun asked =>
          ViewCache.view?_eq_none_iff.mp kept ((tracks.asked _).mpr asked)
        exact iff_of_true rfl (.inr (.inl new))
    | some view =>
        have old : view = visit.registry.computed (service, point) := tracks.current.view? kept
        rw [Option.getD_some, old]
        refine ⟨fun same => .inr (.inr same), ?_⟩
        rintro (ends | new | same)
        · have unchanged : visit.changes = false := by
            simpa [Visit.drops, ends] using drops
          exact (congrFun (computed_of_unchanged tracks.present removes unchanged) _).symm
        · have unasked := mt (tracks.asked (service, point)).mp new
          rw [ViewCache.view?_eq_none_iff.mpr unasked] at kept
          cases kept
        · exact same

/-- What can be asked once a removal is over, whether it has returned or panicked. Each key finds
what the lists gave that it was first asked of since views were last dropped, and this removal
drops them only if it returns and has removed something. As long as no removal has been cut short
before it, an answer is out of date exactly when it panics, the key had been asked for since the
last change, and the list for it is no longer the same. -/
theorem answers_after_removal (discovery : Discovery) (sections : Sections) (world : World)
    (activities : List Activity) (before after : List Visit) (visit : Visit)
    (met : (create discovery sections world).assembled.visits activities =
      before ++ visit :: after)
    (removes : visit.removes = true) :
    let start := (create discovery sections world).assembled
    let left := (visit.registry.perform visit.operation).2
    Performs left after (start.after activities) ∧
      (∀ service point, (left.interceptorsFor service point).1 =
        (if visit.drops = true then left else (origin? before (service, point)).getD left).computed
          (service, point)) ∧
      ((∀ earlier ∈ before, earlier.Sound) → ∀ service point,
        ((left.interceptorsFor service point).1 = left.computed (service, point) ↔
          visit.ends = true ∨ (service, point) ∉ recentKeys before ∨
            visit.registry.computed (service, point) = left.computed (service, point))) := by
  intro start left
  obtain ⟨early, late⟩ := (after_performs start activities).divide met
  have recalls : Recalls visit.registry ([] ++ before) :=
    (Recalls.start discovery sections world).performs early
  have answers (service : Option String) (point : InterceptPoint) :
      (left.interceptorsFor service point).1 =
        (if visit.drops = true then left
          else (origin? before (service, point)).getD left).computed (service, point) := by
    have answer := (recalls.perform visit.operation).answer service point
    rw [List.nil_append, origin?_concat, Visit.keys_of_removes removes] at answer
    rw [answer]
    split
    · rfl
    · rw [if_neg List.not_mem_nil, Option.or_none]
  refine ⟨late, answers, fun sound service point => ?_⟩
  have tracks : Tracks visit.registry (recentKeys ([] ++ before)) :=
    early.tracks (.start discovery sections world) sound
  exact tracks.answer_after_removal removes service point

/-- A program that asks for a list and removes what has the name. The selection panics on any other
record. -/
def hasty (name : String) : Program :=
  .ask (.interceptorsFor none .requestAfterAuth) fun _ =>
  .ask (.removeInterceptors fun card =>
    if card.name == name then .ok true else .error (.text "another one")) fun _ =>
  .finish (.done ())

def hastener (name : String) : Record (Live Initializer) where
  registration := { name := "hastener" }
  implementation := "hastener"
  config := none
  enabled := true
  plugin := ⟨0, { init := fun _ => hasty name }⟩

/-- Two interceptors arrive, and the program removes the first one before it panics. -/
def haste : List Activity :=
  [.operate (.addInterceptor (plainRecord "tag")),
    .operate (.addInterceptor (plainRecord "log")), .run (hastener "tag")]

def hasteVisits : List Visit := (create (fun _ => []) [] {}).assembled.visits haste

/-- The removal is the fourth visit. The interceptor is gone, and a key that has been asked for
still finds it, which a new one does not. -/
theorem answers_after_removal_of_haste :
    let removal := hasteVisits.get ⟨3, by decide +kernel⟩
    let left := (removal.registry.perform removal.operation).2
    hasteVisits = hasteVisits.take 3 ++ removal :: hasteVisits.drop 4 ∧
      removal.removes = true ∧ (∀ earlier ∈ hasteVisits.take 3, earlier.Sound) ∧
      (left.interceptorsFor none .requestAfterAuth).1.map Record.name = ["tag", "log"] ∧
      (left.interceptorsFor none .requestAfterAuth).1 ≠ left.computed (none, .requestAfterAuth) ∧
      (left.interceptorsFor none .response).1 = left.computed (none, .response) := by
  intro removal left
  have met : hasteVisits = hasteVisits.take 3 ++ removal :: hasteVisits.drop 4 :=
    (List.take_append_drop 3 hasteVisits).symm.trans
      (congrArg _ (List.drop_eq_getElem_cons (by decide +kernel)))
  have removes : removal.removes = true := by decide +kernel
  have sound : ∀ earlier ∈ hasteVisits.take 3, earlier.Sound := by decide +kernel
  obtain ⟨-, answers, dated⟩ := answers_after_removal (fun _ => []) [] {} haste _ _ _ met removes
  have old : (left.interceptorsFor none .requestAfterAuth).1.map Record.name = ["tag", "log"] := by
    rw [answers none .requestAfterAuth]
    decide +kernel
  have new : (left.computed (none, .requestAfterAuth)).map Record.name = ["log"] := by
    decide +kernel
  have unasked : (none, .response) ∉ recentKeys (hasteVisits.take 3) := by decide +kernel
  refine ⟨met, removes, sound, old, fun same => ?_,
    (dated sound none .response).mpr (.inr (.inl unasked))⟩
  rw [same, new] at old
  exact absurd old (by decide)

/-- The guard of the initializer contains the panic, and the interceptor that is gone is found. -/
theorem removed_interceptor_found :
    let filled := (create (fun _ => []) [] {}).assembled.after (haste.take 2)
    let contained := filled.runInitializer (hastener "tag")
    contained.1 = .error (.panicked "hastener" "another one") ∧
      contained.2.interceptors.map Record.name = ["log"] ∧
      (contained.2.interceptorsFor none .requestAfterAuth).1.map Record.name = ["tag", "log"] ∧
      (contained.2.computed (none, .requestAfterAuth)).map Record.name = ["log"] := by
  decide +kernel

end PluginHost.Registry
