import PluginHost.Proofs.Concurrency.Steps
import Mathlib.Data.List.Infix

/-
This file says which lists an answer is computed from. A lookup reads the interceptors at one
moment and the services at a later one, and when both lists change in between, its answer may fit
neither the lists as they were nor the lists as they are.
-/

namespace PluginHost.Concurrency

variable {ι : Type} [DecidableEq ι] {start : Scene ι} {schedule : List ι}

namespace Scene

/-- The answer fits the lists as they stood together at one moment. -/
def FromMoment (start : Scene ι) (schedule : List ι) (key : ViewKey)
    (view : List ExchangerRecord) : Prop :=
  ∃ moment, moment <+: schedule ∧ view = (start.run moment).shared.view key

/-- The answer fits the interceptors of one moment and the services of a later one. -/
def FromMoments (start : Scene ι) (schedule : List ι) (key : ViewKey)
    (view : List ExchangerRecord) : Prop :=
  ∃ earlier later, earlier <+: later ∧ later <+: schedule ∧
    view = Interception.view (start.run earlier).shared.interceptors
      (start.run later).shared.services key

/-- What a task holds was read in the course of the schedule. -/
def Backs (start : Scene ι) (schedule : List ι) : Task → Prop
  | .lookup _ (.halfway _ interceptors) =>
    ∃ earlier, earlier <+: schedule ∧ interceptors = (start.run earlier).shared.interceptors
  | .lookup _ (.read _ interceptors services) =>
    ∃ earlier later, earlier <+: later ∧ later <+: schedule ∧
      interceptors = (start.run earlier).shared.interceptors ∧
      services = (start.run later).shared.services
  | .lookup key (.answered view) => start.FromMoments schedule key view
  | _ => True

/-- Without a service, one moment is enough. -/
theorem FromMoments.without_service {point : InterceptPoint} {view : List ExchangerRecord}
    (origin : start.FromMoments schedule (none, point) view) :
    start.FromMoment schedule (none, point) view := by
  obtain ⟨earlier, later, before, within, same⟩ := origin
  exact ⟨earlier, before.trans within, same.trans (Interception.view_without_service _ _ _)⟩

theorem FromMoments.mono {key : ViewKey} {view : List ExchangerRecord} {longer : List ι}
    (origin : start.FromMoments schedule key view) (more : schedule <+: longer) :
    start.FromMoments longer key view := by
  obtain ⟨earlier, later, before, within, same⟩ := origin
  exact ⟨earlier, later, before, within.trans more, same⟩

theorem Backs.mono {task : Task} {longer : List ι} (backs : start.Backs schedule task)
    (more : schedule <+: longer) : start.Backs longer task := by
  unfold Backs at backs ⊢
  split
  · obtain ⟨earlier, within, same⟩ := backs
    exact ⟨earlier, within.trans more, same⟩
  · obtain ⟨earlier, later, before, within, same⟩ := backs
    exact ⟨earlier, later, before, within.trans more, same⟩
  · exact FromMoments.mono backs more
  · trivial

end Scene

/-- What is kept and what the threads hold was read in the course of the schedule. -/
structure Traced (start : Scene ι) (schedule : List ι) : Prop where
  kept : (start.run schedule).shared.views.Keeps (start.FromMoments schedule)
  held : ∀ thread, start.Backs schedule ((start.run schedule).tasks thread)

namespace Traced

variable {thread : ι}

theorem initial (interceptors services : List ExchangerRecord) (errands : ι → ViewKey ⊕ Mutation) :
    Traced (.start interceptors services errands) [] where
  kept := .empty _ _
  held thread := by
    cases errand : errands thread <;> simp [Scene.run, Scene.start, errand, Scene.Backs]

/-- What is kept was also read in the course of a longer schedule. -/
theorem kept_longer (traced : Traced start schedule) (thread : ι) :
    (start.run schedule).shared.views.Keeps (start.FromMoments (schedule ++ [thread])) :=
  traced.kept.imp fun _ _ origin => origin.mono (List.prefix_append schedule [thread])

/-- What one step adds to the cache and to what its thread holds has to be accounted for. -/
theorem step (traced : Traced start schedule) {next : Task} {shared : Shared}
    (advanced : (start.run schedule).advance thread =
      ⟨shared, Function.update (start.run schedule).tasks thread next⟩)
    (kept : shared.views.Keeps (start.FromMoments (schedule ++ [thread])))
    (backs : start.Backs (schedule ++ [thread]) next) :
    Traced start (schedule ++ [thread]) := by
  have more : schedule <+: schedule ++ [thread] := List.prefix_append schedule [thread]
  refine ⟨?_, ?_⟩
  · rw [Scene.run_concat, advanced]
    exact kept
  · rw [Scene.run_concat, advanced]
    exact forall_updated backs fun other => (traced.held other).mono more

/-- A step of a lookup reads something more, or answers with what is kept or has been read. -/
theorem lookup (traced : Traced start schedule) {key : ViewKey} {reading : Reading}
    (held : (start.run schedule).tasks thread = .lookup key reading) :
    Traced start (schedule ++ [thread]) := by
  have more : schedule <+: schedule ++ [thread] := List.prefix_append schedule [thread]
  have kept := traced.kept_longer thread
  have backs : start.Backs (schedule ++ [thread]) (.lookup key reading) :=
    held ▸ (traced.held thread).mono more
  cases reading with
  | asked => exact traced.step (Scene.advance_of held rfl) kept trivial
  | marked seen =>
      cases known : (start.run schedule).shared.views.view? key with
      | some view =>
          exact traced.step (Scene.advance_of held (Task.advance_known known)) kept
            (kept.view? known)
      | none =>
          exact traced.step (Scene.advance_of held (Task.advance_new known)) kept trivial
  | missed seen =>
      exact traced.step (Scene.advance_of held rfl) kept ⟨schedule, more, rfl⟩
  | halfway seen interceptors =>
      obtain ⟨earlier, within, same⟩ : start.Backs schedule (.lookup key (.halfway seen
        interceptors)) := held ▸ traced.held thread
      exact traced.step (Scene.advance_of held rfl) kept ⟨earlier, schedule, within, more, same, rfl⟩
  | read seen interceptors services =>
      obtain ⟨earlier, later, before, within, sameInterceptors, sameServices⟩ := backs
      have origin : start.FromMoments (schedule ++ [thread]) key
          (Interception.view interceptors services key) :=
        ⟨earlier, later, before, within, by rw [sameInterceptors, sameServices]⟩
      exact traced.step (Scene.advance_of held rfl) (kept.store fun _ => origin)
        (kept.store_answer seen origin)
  | answered view => exact traced.step (Scene.advance_of held rfl) kept backs

/-- A change adds nothing to the cache. -/
theorem mutation (traced : Traced start schedule) {change : Mutation} {writing : Writing}
    (held : (start.run schedule).tasks thread = .mutation change writing) :
    Traced start (schedule ++ [thread]) := by
  have kept := traced.kept_longer thread
  cases writing with
  | asked =>
      refine traced.step (Scene.advance_of held rfl) ?_ trivial
      rw [change.update_views]
      exact kept
  | updated => exact traced.step (Scene.advance_of held rfl) (.invalidate _ _) trivial
  | ended => exact traced.step (Scene.advance_of held rfl) kept trivial

theorem advance (traced : Traced start schedule) (thread : ι) :
    Traced start (schedule ++ [thread]) := by
  cases held : (start.run schedule).tasks thread with
  | lookup key reading => exact traced.lookup held
  | mutation change writing => exact traced.mutation held

theorem run (traced : Traced start []) (schedule : List ι) : Traced start schedule := by
  induction schedule using List.reverseRecOn with
  | nil => exact traced
  | append_singleton schedule thread ih => exact ih.advance thread

end Traced

/-- An answer fits the interceptors of one moment and the services of a later one, and it fits a
single moment if it is for traffic without a service. -/
theorem answer_from_moments (interceptors services : List ExchangerRecord)
    (errands : ι → ViewKey ⊕ Mutation) (schedule : List ι) :
    let start := Scene.start interceptors services errands
    ∀ thread key view,
      (start.run schedule).tasks thread = .lookup key (.answered view) →
        start.FromMoments schedule key view ∧
          (key.1 = none → start.FromMoment schedule key view) := by
  intro start thread key view answered
  have traced : Traced start schedule := (Traced.initial interceptors services errands).run schedule
  have origin : start.FromMoments schedule key view := by
    have backs := traced.held thread
    rw [answered] at backs
    exact backs
  refine ⟨origin, fun plain => ?_⟩
  obtain ⟨service, point⟩ := key
  obtain rfl : service = none := plain
  exact origin.without_service

/-- A lookup, the addition of an interceptor, and the addition of the service that is looked up. -/
def enlargement : Fin 3 → ViewKey ⊕ Mutation
  | 0 => .inl (some "api", .requestAfterAuth)
  | 1 => .inr (.addInterceptor (Registry.plainRecord "second"))
  | 2 => .inr (.addService (Registry.plainRecord "api"))

/-- Both additions fall between the two reads. The lookup answers with the first interceptor alone,
while there was no service for it before and there are two interceptors for it after. -/
theorem answer_torn :
    let start := Scene.start [Registry.plainRecord "first"] [] enlargement
    let schedule := [0, 0, 0, 1, 1, 2, 2, 0, 0]
    (start.run schedule).tasks 0 =
        .lookup (some "api", .requestAfterAuth) (.answered [Registry.plainRecord "first"]) ∧
      ¬ start.FromMoment schedule (some "api", .requestAfterAuth)
        [Registry.plainRecord "first"] := by
  intro start schedule
  have apart : ∀ moment ∈ schedule.inits, ((start.run moment).shared.view
      (some "api", .requestAfterAuth)).map Record.name ≠ ["first"] := by
    decide +kernel
  refine ⟨rfl, fun ⟨moment, within, same⟩ => ?_⟩
  apply apart moment ((List.mem_inits moment schedule).mpr within)
  rw [← same]
  rfl

/-- The lookup above has read the interceptors of one moment and the services of a later one. -/
theorem answer_from_moments_of_enlargement :
    let start := Scene.start [Registry.plainRecord "first"] [] enlargement
    let schedule := [0, 0, 0, 1, 1, 2, 2, 0, 0]
    (start.run schedule).tasks 0 =
        .lookup (some "api", .requestAfterAuth) (.answered [Registry.plainRecord "first"]) ∧
      start.FromMoments schedule (some "api", .requestAfterAuth)
        [Registry.plainRecord "first"] := by
  intro start schedule
  have answered : (start.run schedule).tasks 0 =
      .lookup (some "api", .requestAfterAuth) (.answered [Registry.plainRecord "first"]) := rfl
  exact ⟨answered, (answer_from_moments _ _ enlargement schedule _ _ _ answered).1⟩

end PluginHost.Concurrency
