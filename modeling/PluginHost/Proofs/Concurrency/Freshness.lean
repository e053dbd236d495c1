import PluginHost.Proofs.Concurrency.Steps
import Mathlib.Data.Fintype.Basic

/-
This file proves that no list which is out of date is kept, in whatever order the threads take
their steps. A lookup that comes too late is told by the generation, because it looks at the
generation before it reads the lists.
-/

namespace PluginHost.Concurrency

/-- What is kept is what would be computed anew. -/
def Shared.Current (shared : Shared) : Prop :=
  shared.views.Keeps fun key view => view = shared.view key

namespace Task

/-- The generation that a lookup has looked at. -/
def seen? : Task → Option UInt64
  | lookup _ (.marked seen) => some seen
  | lookup _ (.missed seen) => some seen
  | lookup _ (.halfway seen _) => some seen
  | lookup _ (.read seen _ _) => some seen
  | _ => none

/-- A lookup cannot have seen more drops than there were. -/
def Marked (drops : Nat) (task : Task) : Prop := ∀ seen ∈ task.seen?, seen.toNat ≤ drops

/-- A lookup whose generation still stands has read the lists as they are. -/
def Fresh (shared : Shared) : Task → Prop
  | lookup _ (.halfway seen interceptors) =>
    shared.views.generation = seen → interceptors = shared.interceptors
  | lookup _ (.read seen interceptors services) =>
    shared.views.generation = seen →
      interceptors = shared.interceptors ∧ services = shared.services
  | _ => True

variable {shared : Shared} {task : Task}

theorem Fresh.setViews (fresh : task.Fresh shared) {views : ViewCache ExchangerRecord}
    (same : views.generation = shared.views.generation) :
    task.Fresh { shared with views := views } := by
  unfold Fresh at fresh ⊢
  split
  · exact fun seen => fresh (same.symm.trans seen)
  · exact fun seen => fresh (same.symm.trans seen)
  · trivial

/-- Whatever was read before the views were dropped does not count any more. -/
theorem fresh_of_seen_ne (late : ∀ seen ∈ task.seen?, shared.views.generation ≠ seen) :
    task.Fresh shared := by
  unfold Fresh
  split
  · exact fun same => absurd same (late _ rfl)
  · exact fun same => absurd same (late _ rfl)
  · trivial

end Task

variable {ι : Type} {drops : Nat}

/-- What holds between two steps. Nothing is said about the lists while a change is between its two
steps, because then the views may be those of the lists before. -/
structure Coherent (scene : Scene ι) (drops : Nat) : Prop where
  counted : scene.shared.views.generation.toNat = drops
  marked : ∀ thread, (scene.tasks thread).Marked drops
  current : scene.Quiet → scene.shared.Current
  fresh : scene.Quiet → ∀ thread, (scene.tasks thread).Fresh scene.shared

theorem Coherent.start (interceptors services : List ExchangerRecord)
    (errands : ι → ViewKey ⊕ Mutation) :
    Coherent (.start interceptors services errands) 0 where
  counted := rfl
  marked thread seen marked := by
    cases errand : errands thread <;> simp [Scene.start, errand, Task.seen?] at marked
  current _ := .empty _ _
  fresh _ thread := by
    cases errand : errands thread <;> simp [Scene.start, errand, Task.Fresh]

variable [DecidableEq ι] {scene : Scene ι} {thread : ι}

namespace Coherent

/-- A step that leaves the lists and the generation in place. -/
theorem replace (coherent : Coherent scene drops) {task : Task}
    {views : ViewCache ExchangerRecord}
    (same : views.generation = scene.shared.views.generation)
    (calm : task.between = (scene.tasks thread).between)
    (marked : task.Marked drops)
    (current : scene.Quiet → Shared.Current { scene.shared with views := views })
    (fresh : scene.Quiet → task.Fresh { scene.shared with views := views }) :
    Coherent ⟨{ scene.shared with views := views }, Function.update scene.tasks thread task⟩
      drops := by
  have quiet (after : ∀ other, (Function.update scene.tasks thread task other).between = false) :
      scene.Quiet := by
    intro other
    rcases eq_or_ne other thread with rfl | apart
    · rw [← calm, ← after other, Function.update_self]
    · rw [← after other, Function.update_of_ne apart]
  refine ⟨(congrArg UInt64.toNat same).trans coherent.counted, ?_, fun after =>
    current (quiet after), fun after => ?_⟩
  · exact forall_updated marked coherent.marked
  · exact forall_updated (fresh (quiet after)) fun other =>
      (coherent.fresh (quiet after) other).setViews same

/-- A step of a lookup. Only the last one touches what is shared, and it stores what the lists give
or nothing. -/
theorem lookup (coherent : Coherent scene drops) {key : ViewKey} {reading : Reading}
    (held : scene.tasks thread = .lookup key reading) :
    Coherent (scene.advance thread) drops := by
  have marked := coherent.marked thread
  have fresh := fun quiet => coherent.fresh quiet thread
  have calm (next : Reading) : (Task.lookup key next).between = (scene.tasks thread).between := by
    rw [held]
    rfl
  rw [held] at marked fresh
  cases reading with
  | asked =>
      rw [Scene.advance_of held rfl]
      refine coherent.replace rfl (calm _) ?_ coherent.current fun _ => trivial
      intro seen here
      rw [← Option.some.inj here]
      exact coherent.counted.le
  | marked seen =>
      cases known : scene.shared.views.view? key with
      | some view =>
          rw [Scene.advance_of held (Task.advance_known known)]
          exact coherent.replace rfl (calm _) (fun _ absurd => by cases absurd) coherent.current
            fun _ => trivial
      | none =>
          rw [Scene.advance_of held (Task.advance_new known)]
          exact coherent.replace rfl (calm _) marked coherent.current fun _ => trivial
  | missed seen =>
      rw [Scene.advance_of held rfl]
      exact coherent.replace rfl (calm _) marked coherent.current fun _ _ => rfl
  | halfway seen interceptors =>
      rw [Scene.advance_of held rfl]
      exact coherent.replace rfl (calm _) marked coherent.current fun quiet intime =>
        ⟨fresh quiet intime, rfl⟩
  | read seen interceptors services =>
      rw [Scene.advance_of held rfl]
      refine coherent.replace (ViewCache.store_generation _ _ _ _) (calm _)
        (fun _ absurd => by cases absurd) (fun quiet => ?_) fun _ => trivial
      refine (coherent.current quiet).store fun intime => ?_
      obtain ⟨sameInterceptors, sameServices⟩ := fresh quiet intime
      rw [sameInterceptors, sameServices]
      rfl
  | answered view =>
      rw [Scene.advance_of held rfl]
      exact coherent.replace rfl (calm _) marked coherent.current fresh

/-- A step of a change. After the first one a change is between its steps, and after the second one
no lookup that is under way is in time. -/
theorem mutation (coherent : Coherent scene drops) {change : Mutation} {writing : Writing}
    (held : scene.tasks thread = .mutation change writing)
    (few : drops + (scene.tasks thread).between.toNat < UInt64.size) :
    Coherent (scene.advance thread) (drops + (scene.tasks thread).between.toNat) := by
  rw [held] at few ⊢
  cases writing with
  | asked =>
      cases dropped : change.drops scene.shared with
      | true =>
          rw [Scene.advance_of held (Task.advance_dropping dropped)]
          have busy : ¬ Scene.Quiet ⟨change.update scene.shared,
              Function.update scene.tasks thread (.mutation change .updated)⟩ := by
            intro quiet
            have here := quiet thread
            simp [Task.between] at here
          refine ⟨?_, ?_, fun quiet => absurd quiet busy, fun quiet => absurd quiet busy⟩
          · rw [change.update_views]
            exact coherent.counted
          · exact forall_updated (fun _ absurd => by cases absurd) coherent.marked
      | false =>
          rw [Scene.advance_of held (Task.advance_idle dropped)]
          exact coherent.replace rfl (by rw [held]; rfl) (fun _ absurd => by cases absurd)
            coherent.current fun _ => trivial
  | updated =>
      rw [Scene.advance_of held rfl]
      change drops + 1 < UInt64.size at few
      have next : (scene.shared.views.generation + 1).toNat = drops + 1 := by
        rw [UInt64.toNat_add, coherent.counted]
        exact Nat.mod_eq_of_lt few
      have marked : ∀ other, (Function.update scene.tasks thread (.mutation change .ended)
          other).Marked drops :=
        forall_updated (fun _ absurd => by cases absurd) coherent.marked
      refine ⟨next, fun other seen here => (marked other seen here).trans (Nat.le_succ _),
        fun _ => .invalidate _ _, fun _ other => Task.fresh_of_seen_ne fun seen here same => ?_⟩
      have early := marked other seen here
      have late : seen.toNat = drops + 1 := same ▸ next
      omega
  | ended =>
      rw [Scene.advance_of held rfl]
      exact coherent.replace rfl (by rw [held]) (fun _ absurd => by cases absurd)
        coherent.current fun _ => trivial

theorem advance (coherent : Coherent scene drops) (thread : ι)
    (few : drops + (scene.tasks thread).between.toNat < UInt64.size) :
    Coherent (scene.advance thread) (drops + (scene.tasks thread).between.toNat) := by
  cases held : scene.tasks thread with
  | lookup key reading => exact coherent.lookup held
  | mutation change writing => exact held ▸ coherent.mutation held few

theorem run (coherent : Coherent scene drops) {schedule : List ι}
    (few : drops + scene.invalidations schedule < UInt64.size) :
    Coherent (scene.run schedule) (drops + scene.invalidations schedule) := by
  induction schedule generalizing scene drops with
  | nil => exact coherent
  | cons thread rest ih =>
      rw [Scene.invalidations, ← Nat.add_assoc] at few ⊢
      have step := coherent.advance thread (Nat.lt_of_le_of_lt (Nat.le_add_right _ _) few)
      exact ih step few

end Coherent

/-- No list that is out of date is kept. When no change is between its two steps, each list of the
cache is the one that would be computed anew. -/
theorem quiet_views_current (interceptors services : List ExchangerRecord)
    (errands : ι → ViewKey ⊕ Mutation) (schedule : List ι)
    (few : (Scene.start interceptors services errands).invalidations schedule < UInt64.size) :
    let scene := (Scene.start interceptors services errands).run schedule
    scene.Quiet → ∀ entry ∈ scene.shared.views.views,
      entry.2 = Interception.view scene.shared.interceptors scene.shared.services entry.1 := by
  intro scene quiet
  have few : 0 + (Scene.start interceptors services errands).invalidations schedule < UInt64.size := by
    rw [Nat.zero_add]
    exact few
  exact ((Coherent.start interceptors services errands).run few).current quiet

/-- Two lookups of one key, the addition of the service they ask for, and a removal of nothing. -/
def arrival : Fin 4 → ViewKey ⊕ Mutation
  | 0 => .inl (some "api", .requestAfterAuth)
  | 1 => .inl (some "api", .requestAfterAuth)
  | 2 => .inr (.addService (Registry.plainRecord "api"))
  | 3 => .inr (.removeInterceptors fun _ => false)

/-- The service comes after the first lookup has read the lists. The second lookup runs while the
first one still computes, and only what the second one finds is kept. -/
theorem quiet_views_current_of_arrival :
    let start := Scene.start [Registry.plainRecord "tag"] [] arrival
    let schedule := [0, 0, 0, 0, 2, 2, 1, 1, 1, 1, 1, 0, 3]
    let scene := start.run schedule
    start.invalidations schedule < UInt64.size ∧ scene.Quiet ∧
      scene.shared.views.views.map (fun entry => entry.2.map Record.name) = [["tag"]] ∧
      ∀ entry ∈ scene.shared.views.views,
        entry.2 = Interception.view scene.shared.interceptors scene.shared.services entry.1 := by
  intro start schedule scene
  have few : start.invalidations schedule < UInt64.size := by decide +kernel
  have quiet : scene.Quiet := by decide +kernel
  have current := quiet_views_current [Registry.plainRecord "tag"] [] arrival schedule few
  refine ⟨few, quiet, by decide +kernel, ?_⟩
  -- the two runs are the same expression, and nothing has to be evaluated to see it
  with_reducible exact current quiet

end PluginHost.Concurrency
