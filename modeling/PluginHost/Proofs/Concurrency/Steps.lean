import PluginHost.Proofs.Registry.Visits
import Mathlib.Data.Fintype.Defs
import Mathlib.Logic.Function.Iterate

/-
This file takes the lookups and the changes of a registry apart into the steps that no other thread
can interrupt. A thread that is not interrupted does what the registry does in one call.
-/

namespace PluginHost.Concurrency

/-- What the threads of a host share once its plugins are assembled. -/
structure Shared where
  interceptors : List ExchangerRecord
  services : List ExchangerRecord
  views : ViewCache ExchangerRecord := {}

namespace Shared

/-- The interceptors of an exchange, computed anew from the lists as they are. -/
def view (shared : Shared) (key : ViewKey) : List ExchangerRecord :=
  Interception.view shared.interceptors shared.services key

def invalidate (shared : Shared) : Shared := { shared with views := shared.views.invalidate }

end Shared

/-- A change of one of the lists. The selection of a removal does not panic. -/
inductive Mutation where
  | addService (record : ExchangerRecord)
  | addInterceptor (record : ExchangerRecord)
  | removeServices (chosen : Record Unit → Bool)
  | removeInterceptors (chosen : Record Unit → Bool)

namespace Mutation

/-- The first step changes the list. -/
def update (shared : Shared) : Mutation → Shared
  | addService record =>
    { shared with services := record.insertByPriority shared.services }
  | addInterceptor record =>
    { shared with interceptors := record.insertByPriority shared.interceptors }
  | removeServices chosen =>
    { shared with services := shared.services.filter fun record => !chosen record.card }
  | removeInterceptors chosen =>
    { shared with interceptors := shared.interceptors.filter fun record => !chosen record.card }

/-- The call of the registry that makes the change. -/
def operation : Mutation → Registry.Operation
  | addService record => .addService record
  | addInterceptor record => .addInterceptor record
  | removeServices chosen => .ask (.removeServices fun card => .ok (chosen card))
  | removeInterceptors chosen => .ask (.removeInterceptors fun card => .ok (chosen card))

/-- There is no second step for a removal that has removed nothing. -/
def drops (shared : Shared) (mutation : Mutation) : Bool :=
  match mutation with
  | addService _ => true
  | addInterceptor _ => true
  | removeServices _ => (mutation.update shared).services.length < shared.services.length
  | removeInterceptors _ =>
    (mutation.update shared).interceptors.length < shared.interceptors.length

end Mutation

/-- How far a lookup has come, and what it has read. -/
inductive Reading where
  | asked
  | marked (seen : UInt64)
  | missed (seen : UInt64)
  | halfway (seen : UInt64) (interceptors : List ExchangerRecord)
  | read (seen : UInt64) (interceptors services : List ExchangerRecord)
  | answered (view : List ExchangerRecord)

/-- A lookup looks at the generation, at the cache and at the two lists in turn. The comparison of
the generations and the storing are one step. -/
def Reading.advance (key : ViewKey) (shared : Shared) : Reading → Reading × Shared
  | asked => (marked shared.views.generation, shared)
  | marked seen =>
    match shared.views.view? key with
    | some view => (answered view, shared)
    | none => (missed seen, shared)
  | missed seen => (halfway seen shared.interceptors, shared)
  | halfway seen interceptors => (read seen interceptors shared.services, shared)
  | read seen interceptors services =>
    let (view, views) :=
      shared.views.store seen key (Interception.view interceptors services key)
    (answered view, { shared with views := views })
  | answered view => (answered view, shared)

/-- How far a change has come. -/
inductive Writing where
  | asked
  | updated
  | ended

def Writing.advance (mutation : Mutation) (shared : Shared) : Writing → Writing × Shared
  | asked => (if mutation.drops shared then updated else ended, mutation.update shared)
  | updated => (ended, shared.invalidate)
  | ended => (ended, shared)

inductive Task where
  | lookup (key : ViewKey) (reading : Reading)
  | mutation (mutation : Mutation) (writing : Writing)

namespace Task

def advance (shared : Shared) : Task → Task × Shared
  | lookup key reading =>
    let (reading, shared) := reading.advance key shared
    (lookup key reading, shared)
  | mutation change writing =>
    let (writing, shared) := writing.advance change shared
    (mutation change writing, shared)

/-- A change is between its two steps when its list is changed and the views are not yet
dropped. -/
def between : Task → Bool
  | mutation _ .updated => true
  | _ => false

/-- What a thread does when no other one interrupts it. Five steps are enough for every task. -/
def alone (task : Task) (shared : Shared) : Task × Shared :=
  (fun state : Task × Shared => state.1.advance state.2)^[5] (task, shared)

end Task

/-- The threads with their tasks. A thread that has several things to do stands for several threads
that take their turns one after the other. -/
structure Scene (ι : Type) where
  shared : Shared
  tasks : ι → Task

namespace Scene

variable {ι : Type} [DecidableEq ι]

def start (interceptors services : List ExchangerRecord) (errands : ι → ViewKey ⊕ Mutation) :
    Scene ι where
  shared := { interceptors, services }
  tasks thread := (errands thread).elim (fun key => .lookup key .asked)
    fun mutation => .mutation mutation .asked

/-- One thread takes one step. -/
def advance (scene : Scene ι) (thread : ι) : Scene ι :=
  let (task, shared) := (scene.tasks thread).advance scene.shared
  ⟨shared, Function.update scene.tasks thread task⟩

/-- The schedule says whose turn it is. -/
def run (scene : Scene ι) (schedule : List ι) : Scene ι := schedule.foldl advance scene

theorem run_concat (scene : Scene ι) (schedule : List ι) (thread : ι) :
    scene.run (schedule ++ [thread]) = (scene.run schedule).advance thread := by
  simp only [run, List.foldl_append, List.foldl_cons, List.foldl_nil]

/-- How often the views are dropped. -/
def invalidations (scene : Scene ι) : List ι → Nat
  | [] => 0
  | thread :: rest =>
    (scene.tasks thread).between.toNat + (scene.advance thread).invalidations rest

/-- No change is between its two steps. -/
def Quiet (scene : Scene ι) : Prop := ∀ thread, (scene.tasks thread).between = false

instance [Fintype ι] (scene : Scene ι) : Decidable scene.Quiet :=
  inferInstanceAs (Decidable (∀ thread, (scene.tasks thread).between = false))

end Scene

variable {shared : Shared}

variable {ι : Type} [DecidableEq ι] {thread : ι}

theorem Scene.advance_of {scene : Scene ι} {task next : Task} {shared : Shared}
    (held : scene.tasks thread = task) (step : task.advance scene.shared = (next, shared)) :
    scene.advance thread = ⟨shared, Function.update scene.tasks thread next⟩ := by
  rw [advance, held, step]

theorem forall_updated {property : Task → Prop} {tasks : ι → Task} {task : Task}
    (here : property task) (others : ∀ other, property (tasks other)) :
    ∀ other, property (Function.update tasks thread task other) := by
  intro other
  rcases eq_or_ne other thread with rfl | apart
  · rw [Function.update_self]
    exact here
  · rw [Function.update_of_ne apart]
    exact others other

/-- A removal that leaves as much of the list as there was changes nothing. -/
theorem Mutation.update_of_not_drops {mutation : Mutation}
    (idle : mutation.drops shared = false) : mutation.update shared = shared := by
  cases mutation with
  | addService record => cases idle
  | addInterceptor record => cases idle
  | removeServices chosen =>
      have whole := List.filter_sublist.eq_of_length_le (not_lt.mp (of_decide_eq_false idle))
      rw [update, whole]
  | removeInterceptors chosen =>
      have whole := List.filter_sublist.eq_of_length_le (not_lt.mp (of_decide_eq_false idle))
      rw [update, whole]

theorem Mutation.update_views (mutation : Mutation) :
    (mutation.update shared).views = shared.views := by
  cases mutation <;> rfl

namespace Task

variable {key : ViewKey} {seen : UInt64} {change : Mutation}

/-- A list that is kept is the answer at once. -/
theorem advance_known {view : List ExchangerRecord}
    (known : shared.views.view? key = some view) :
    (lookup key (.marked seen)).advance shared = (lookup key (.answered view), shared) := by
  simp [advance, Reading.advance, known]

theorem advance_new (new : shared.views.view? key = none) :
    (lookup key (.marked seen)).advance shared = (lookup key (.missed seen), shared) := by
  simp [advance, Reading.advance, new]

theorem advance_dropping (dropping : change.drops shared = true) :
    (mutation change .asked).advance shared =
      (mutation change .updated, change.update shared) := by
  simp [advance, Writing.advance, dropping]

/-- A removal that removes nothing is over after its first step. -/
theorem advance_idle (idle : change.drops shared = false) :
    (mutation change .asked).advance shared = (mutation change .ended, shared) := by
  simp [advance, Writing.advance, idle, Mutation.update_of_not_drops idle]

end Task

end PluginHost.Concurrency

namespace PluginHost.Registry

open Concurrency

def shared (registry : Registry) : Shared :=
  ⟨registry.interceptors, registry.services, registry.views⟩

variable {registry : Registry}

/-- A lookup that is not interrupted is the lookup of the registry. -/
theorem lookUp_alone (present : registry.assembly.isSome = true) (service : Option String)
    (point : InterceptPoint) :
    (Task.lookup (service, point) .asked).alone registry.shared =
      (.lookup (service, point) (.answered (registry.lookUp service point).1.view),
        (registry.lookUp service point).2.shared) := by
  obtain ⟨answer, world, -, after⟩ := lookUp_spec present service point
  rw [answer, after]
  cases known : registry.views.view? (service, point) with
  | some view =>
      rw [ViewCache.store_known known]
      simp [Task.alone, Task.advance, Reading.advance, shared, known, setWorld]
  | none =>
      rw [ViewCache.store_new known]
      simp [Task.alone, Task.advance, Reading.advance, shared, known, setWorld,
        ViewCache.store_new known]

/-- A selection that does not panic leaves what it does not choose. -/
theorem retain_choosing {κ : Type} (chosen : Record Unit → Bool) (records : List (Record κ)) :
    retain (fun card => .ok (chosen card)) records =
      (records.filter fun record => !chosen record.card, none) := by
  induction records with
  | nil => rfl
  | cons record rest ih =>
      rw [retain, ih]
      cases picked : chosen record.card <;> simp [picked]

/-- The call of the registry makes both steps of a change in one. -/
theorem perform_shared (present : registry.assembly.isSome = true) (mutation : Mutation) :
    (registry.perform mutation.operation).2.shared =
      if mutation.drops registry.shared then (mutation.update registry.shared).invalidate
      else mutation.update registry.shared := by
  cases mutation with
  | addService record =>
      simp only [Mutation.operation, perform, Registry.addService, assembled_eq present]
      rfl
  | addInterceptor record =>
      simp only [Mutation.operation, perform, Registry.addInterceptor, assembled_eq present]
      rfl
  | removeServices chosen =>
      simp only [Mutation.operation, perform, carryOut, Registry.removeServices,
        assembled_eq present, retain_choosing, removed, Nat.sub_pos_iff_lt]
      have dropped : (Mutation.removeServices chosen).drops registry.shared =
          decide ((registry.services.filter fun record => !chosen record.card).length <
            registry.services.length) := rfl
      rw [dropped]
      simp only [decide_eq_true_eq]
      split <;> rfl
  | removeInterceptors chosen =>
      simp only [Mutation.operation, perform, carryOut, Registry.removeInterceptors,
        assembled_eq present, retain_choosing, removed, Nat.sub_pos_iff_lt]
      have dropped : (Mutation.removeInterceptors chosen).drops registry.shared =
          decide ((registry.interceptors.filter fun record => !chosen record.card).length <
            registry.interceptors.length) := rfl
      rw [dropped]
      simp only [decide_eq_true_eq]
      split <;> rfl

/-- A change that is not interrupted is the call of the registry. -/
theorem perform_alone (present : registry.assembly.isSome = true) (mutation : Mutation) :
    (Task.mutation mutation .asked).alone registry.shared =
      (.mutation mutation .ended, (registry.perform mutation.operation).2.shared) := by
  rw [perform_shared present]
  cases dropped : mutation.drops registry.shared <;>
    simp [Task.alone, Task.advance, Writing.advance, dropped]

end PluginHost.Registry
