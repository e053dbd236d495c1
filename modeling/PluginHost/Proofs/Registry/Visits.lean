import PluginHost.Proofs.Interception
import PluginHost.Proofs.ViewCache
import PluginHost.Registry.Program
import Mathlib.Data.List.Dedup
import Mathlib.Data.List.DropRight

/-
This file says what one call of the host or of an initializer does to an assembled registry. The
lists of interceptors that are kept stay those that would be computed anew.
-/

namespace PluginHost.Registry

/-- What can be done with a registry. A host adds records that it has made itself. -/
inductive Operation where
  | ask (request : Request)
  | addService (record : ExchangerRecord)
  | addInterceptor (record : ExchangerRecord)

def perform (registry : Registry) : Operation → Except Panic Answer × Registry
  | .ask request => registry.carryOut request
  | .addService record => (.ok .done, registry.addService record)
  | .addInterceptor record => (.ok .done, registry.addInterceptor record)

/-- A record of a service or an interceptor as a host makes it. -/
def plainRecord (name : String) (contract : Except Panic Contract := .ok .byteStream) :
    ExchangerRecord where
  registration := { name := name }
  implementation := name
  config := none
  enabled := true
  plugin := ⟨0, { contract := contract }⟩

/-- An operation and the registry that it meets. -/
structure Visit where
  registry : Registry
  operation : Operation

namespace Visit

/-- Only a removal whose selection panics does not end. -/
def ends (visit : Visit) : Bool := (visit.registry.perform visit.operation).1.isOk

/-- The lists of interceptors that are asked for. -/
def keys (visit : Visit) : List ViewKey :=
  match visit.operation with
  | .ask (.interceptorsFor service point) => [(service, point)]
  | .ask (.sharesView service point) => [(service, point)]
  | _ => []

/-- An addition changes a list, and so does a removal that leaves less of it. -/
def changes (visit : Visit) : Bool :=
  match visit.operation with
  | .addService _ => true
  | .addInterceptor _ => true
  | .ask (.addService ..) => true
  | .ask (.addInterceptor ..) => true
  | .ask (.removeServices selects) =>
    (visit.registry.removeServices selects).2.services.length < visit.registry.services.length
  | .ask (.removeInterceptors selects) =>
    (visit.registry.removeInterceptors selects).2.interceptors.length <
      visit.registry.interceptors.length
  | .ask _ => false

/-- A removal that has changed a list has not panicked. -/
def Sound (visit : Visit) : Prop := visit.changes = true → visit.ends = true

instance (visit : Visit) : Decidable visit.Sound :=
  inferInstanceAs (Decidable (visit.changes = true → visit.ends = true))

end Visit

/-- The keys asked for since a list was last changed. -/
def recentKeys (visited : List Visit) : List ViewKey :=
  (visited.rtakeWhile fun visit => !visit.changes).flatMap Visit.keys

variable {registry : Registry}

theorem recentKeys_concat (visited : List Visit) (visit : Visit) :
    recentKeys (visited ++ [visit]) =
      if visit.changes then [] else recentKeys visited ++ visit.keys := by
  rw [recentKeys, List.rtakeWhile_concat]
  cases visit.changes with
  | true => simp
  | false => simp [recentKeys]

theorem assembled_eq (present : registry.assembly.isSome = true) :
    registry.assembled = registry := by
  obtain ⟨assembly, same⟩ := Option.isSome_iff_exists.mp present
  simp [assembled, assemble, same]

theorem assembled_present (registry : Registry) :
    registry.assembled.assembly.isSome = true := by
  unfold assembled assemble
  split
  · rename_i assembly present
    simp [present]
  · rfl

/-- A lookup stores the view of the two lists as they are. -/
theorem lookUp_spec (present : registry.assembly.isSome = true) (service : Option String)
    (point : InterceptPoint) :
    let stored := registry.views.store registry.views.generation (service, point)
      (Interception.view registry.interceptors registry.services (service, point))
    (registry.lookUp service point).1.view = stored.1 ∧
      ∃ world, Interception.Reads registry.world world ∧
        (registry.lookUp service point).2 =
          { registry with views := stored.2 }.setWorld world := by
  intro stored
  obtain ⟨found, reads⟩ := Interception.compute_spec registry.interceptors registry.services
    service point registry.world
  obtain ⟨answered, kept, rest⟩ := registry.views.serve_undisturbed (service, point)
    registry.world (Interception.compute registry.interceptors registry.services service point)
  rw [found] at answered
  unfold lookUp
  rw [assembled_eq present]
  dsimp only
  generalize registry.views.serve _ _ _ = served at answered kept rest ⊢
  obtain ⟨view, cache⟩ := Prod.mk.inj answered
  rw [kept, if_pos rfl, cache]
  refine ⟨view, served.rest, ?_, rfl⟩
  rcases rest with same | computed
  · rw [same]
    exact .refl _
  · rw [computed]
    exact reads

/-- What a selection leaves of a list is a part of it. -/
theorem retain_sublist {ι : Type} (selects : Selection) (records : List (Record ι)) :
    (retain selects records).1.Sublist records := by
  induction records with
  | nil => exact List.Sublist.refl []
  | cons record rest ih =>
      rw [retain]
      cases selects record.card with
      | error panic => exact List.Sublist.refl _
      | ok chosen =>
          cases chosen with
          | true => exact ih.cons record
          | false => exact ih.cons_cons record

/-- A removal drops the views if it has left less of the list, and else the list is what it
was. -/
theorem removed_spec {selects : Selection} {records : List ExchangerRecord}
    (views : ViewCache ExchangerRecord)
    (sound : (retain selects records).1.length < records.length →
      (removed records (retain selects records).1 (retain selects records).2
        views).1.isOk = true) :
    let left := (retain selects records).1
    let outcome := removed records left (retain selects records).2 views
    if left.length < records.length then outcome.2 = views.invalidate
    else outcome.2 = views ∧ left = records := by
  have part := retain_sublist selects records
  generalize retain selects records = left at sound part ⊢
  obtain ⟨kept, panic⟩ := left
  dsimp only at part sound ⊢
  by_cases less : kept.length < records.length
  · rw [if_pos less]
    have ended := sound less
    cases panic with
    | some panic => cases ended
    | none =>
        have some : 0 < records.length - kept.length := Nat.sub_pos_of_lt less
        simp only [removed, if_pos some]
  · rw [if_neg less]
    have whole : kept.length = records.length := Nat.le_antisymm part.length_le (by omega)
    refine ⟨?_, part.eq_of_length whole⟩
    cases panic with
    | some panic => rfl
    | none => simp [removed, whole]

theorem isOk_map {ε α β : Type} (change : α → β) (outcome : Except ε α) :
    (outcome.map change).isOk = outcome.isOk := by
  cases outcome <;> rfl

/-- What holds of an assembled registry between two operations. The cache keeps what is computed
from the current lists, and nothing but what was asked for since their last change. -/
structure Tracks (registry : Registry) (recent : List ViewKey) : Prop where
  present : registry.assembly.isSome = true
  current : registry.views.Keeps fun key view =>
    view = Interception.view registry.interceptors registry.services key
  once : registry.views.keys.Nodup
  asked : ∀ key, key ∈ registry.views.keys ↔ key ∈ recent

namespace Tracks

variable {recent : List ViewKey}

theorem start (discovery : Discovery) (sections : Sections) (world : World) :
    Tracks (create discovery sections world).assembled [] where
  present := assembled_present _
  current := ViewCache.Keeps.empty _ _
  once := List.nodup_nil
  asked _ := Iff.rfl

theorem setWorld (tracks : Tracks registry recent) (world : World) :
    Tracks (registry.setWorld world) recent :=
  ⟨tracks.present, tracks.current, tracks.once, tracks.asked⟩

/-- Once the views are dropped, any lists may be the current ones. -/
theorem dropped (tracks : Tracks registry recent) (interceptors services : List ExchangerRecord)
    (world : World) :
    Tracks ({ registry with interceptors, services, views := registry.views.invalidate }.setWorld
      world) [] where
  present := tracks.present
  current := .invalidate _ _
  once := List.nodup_nil
  asked _ := Iff.rfl

theorem lookUp (tracks : Tracks registry recent) (service : Option String)
    (point : InterceptPoint) :
    (registry.lookUp service point).1.view =
        Interception.view registry.interceptors registry.services (service, point) ∧
      Tracks (registry.lookUp service point).2 (recent ++ [(service, point)]) := by
  obtain ⟨answer, world, -, after⟩ := lookUp_spec tracks.present service point
  have keys := registry.views.keys_store (service, point)
    (Interception.view registry.interceptors registry.services (service, point))
  refine ⟨answer.trans (tracks.current.store_answer _ rfl), ?_⟩
  rw [after]
  refine Tracks.setWorld ?_ world
  refine ⟨tracks.present, tracks.current.store fun _ => rfl, ?_, fun key => ?_⟩
  · rw [keys]
    split
    · exact tracks.once
    · rename_i new
      exact List.nodup_append.mpr ⟨tracks.once, List.nodup_singleton _, by
        rintro key known _ same rfl
        exact new (List.mem_singleton.mp same ▸ known)⟩
  · rw [keys, List.mem_append, ← tracks.asked key, List.mem_singleton]
    split
    · rename_i known
      exact ⟨.inl, fun either => either.elim id fun same => same ▸ known⟩
    · rw [List.mem_append, List.mem_singleton]

/-- A removal leaves the views of the list that it leaves. -/
theorem removeServices (tracks : Tracks registry recent) {selects : Selection}
    (sound : (registry.removeServices selects).2.services.length < registry.services.length →
      (registry.removeServices selects).1.isOk = true) :
    Tracks (registry.removeServices selects).2
      (if (registry.removeServices selects).2.services.length < registry.services.length then []
        else recent) := by
  unfold Registry.removeServices at sound ⊢
  rw [assembled_eq tracks.present] at sound ⊢
  have spec := removed_spec registry.views sound
  dsimp only at spec ⊢
  split at spec
  · rename_i less
    rw [if_pos less, spec]
    exact tracks.dropped registry.interceptors _ registry.world
  · rename_i whole
    rw [if_neg whole, spec.1, spec.2]
    exact tracks

theorem removeInterceptors (tracks : Tracks registry recent) {selects : Selection}
    (sound : (registry.removeInterceptors selects).2.interceptors.length <
        registry.interceptors.length →
      (registry.removeInterceptors selects).1.isOk = true) :
    Tracks (registry.removeInterceptors selects).2
      (if (registry.removeInterceptors selects).2.interceptors.length <
        registry.interceptors.length then [] else recent) := by
  unfold Registry.removeInterceptors at sound ⊢
  rw [assembled_eq tracks.present] at sound ⊢
  have spec := removed_spec registry.views sound
  dsimp only at spec ⊢
  split at spec
  · rename_i less
    rw [if_pos less, spec]
    exact tracks.dropped _ registry.services registry.world
  · rename_i whole
    rw [if_neg whole, spec.1, spec.2]
    exact tracks

theorem addService (tracks : Tracks registry recent) (record : ExchangerRecord) :
    Tracks (registry.addService record) [] := by
  unfold Registry.addService
  rw [assembled_eq tracks.present]
  exact tracks.dropped registry.interceptors _ _

theorem addInterceptor (tracks : Tracks registry recent) (record : ExchangerRecord) :
    Tracks (registry.addInterceptor record) [] := by
  unfold Registry.addInterceptor
  rw [assembled_eq tracks.present]
  exact tracks.dropped _ registry.services _

/-- What one operation keeps. -/
theorem perform {operation : Operation} (tracks : Tracks registry recent)
    (sound : Visit.Sound ⟨registry, operation⟩) :
    Tracks (registry.perform operation).2
      (if Visit.changes ⟨registry, operation⟩ then []
        else recent ++ Visit.keys ⟨registry, operation⟩) := by
  have asked : Tracks registry.assembled (recent ++ []) := by
    rw [assembled_eq tracks.present, List.append_nil]
    exact tracks
  cases operation with
  | addService record => exact tracks.addService record
  | addInterceptor record => exact tracks.addInterceptor record
  | ask request =>
      cases request with
      | services => exact asked
      | interceptors => exact asked
      | interceptorsFor service point => exact (tracks.lookUp service point).2
      | sharesView service point =>
          obtain ⟨-, first⟩ := tracks.lookUp service point
          obtain ⟨-, second⟩ := first.lookUp service point
          refine ⟨second.present, second.current, second.once, fun key => ?_⟩
          exact (second.asked key).trans (by simp [Visit.changes, Visit.keys])
      | addService descriptor sections face =>
          exact (tracks.setWorld (registry.world.enroll descriptor.name face.toPlugin face).2
            ).addService _
      | addInterceptor descriptor sections face =>
          exact (tracks.setWorld (registry.world.enroll descriptor.name face.toPlugin face).2
            ).addInterceptor _
      | removeServices selects =>
          have left := tracks.removeServices fun less =>
            (isOk_map Answer.count _).symm.trans (sound (decide_eq_true less))
          rw [← List.append_nil recent] at left
          simp only [Visit.changes, decide_eq_true_eq]
          exact left
      | removeInterceptors selects =>
          have left := tracks.removeInterceptors fun less =>
            (isOk_map Answer.count _).symm.trans (sound (decide_eq_true less))
          rw [← List.append_nil recent] at left
          simp only [Visit.changes, decide_eq_true_eq]
          exact left

end Tracks

end PluginHost.Registry
