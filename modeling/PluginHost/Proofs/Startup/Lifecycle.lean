import PluginHost.Proofs.Registry.Arrivals
import PluginHost.Proofs.Startup.Stage

/-
This file follows a host through any calls of its users. The initializers of a point run during the
first call that passes the point, and at no other time.
-/

namespace PluginHost.Host

variable {start host next : Host} {point : InitPoint} {runs : List Run}
  {answer failures : List InitializerFailure}

/-- What is kept of a point is never changed. -/
theorem Passes.keeps {more : List Run} (passes : Passes point host more answer next)
    {any : InitPoint} (kept : host.failures? any = some failures) :
    next.failures? any = some failures := by
  by_cases equal : any = point
  · subst equal
    rw [passes.kept, passes.answered, kept]
    rfl
  · rw [passes.others any equal, kept]

namespace Stage

section
variable (stage : Stage start host runs) (new : New start)
include stage new

theorem keeps_assembly (call : PublicCall) (present : host.registry.assembly.isSome = true) :
    (call.after host).registry.assembly = host.registry.assembly := by
  cases call with
  | boot => exact (stage.booting new).assembly present
  | finishStartup =>
      have booted := stage.booting new
      exact ((stage.finishing new).assembly booted.present).trans (booted.assembly present)
  | stats =>
      change host.registry.assembled.assembly = _
      rw [Registry.assembled_eq present]
  | isBooted => rfl
  | registry call => exact (Registry.after_keeps present call).1

theorem assembles {call : PublicCall} (needs : call.assembles = true) :
    (call.after host).registry.assembly.isSome = true := by
  cases call with
  | boot => exact (stage.booting new).present
  | finishStartup => exact (stage.finishing new).present
  | stats => exact host.registry.assembled_present
  | isBooted => cases needs
  | registry call =>
      have keeps := Registry.after_keeps host.registry.assembled_present call
      rw [Registry.after_assembled needs] at keeps
      change (call.after host.registry).assembly.isSome = true
      rw [keeps.1]
      exact host.registry.assembled_present

theorem keeps_failures (call : PublicCall) (kept : host.failures? point = some failures) :
    (call.after host).failures? point = some failures := by
  cases call with
  | boot => exact (stage.booting new).keeps kept
  | finishStartup => exact (stage.finishing new).keeps ((stage.booting new).keeps kept)
  | stats => exact kept
  | isBooted => exact kept
  | registry call => exact kept

/-- A point is passed by the calls that pass it, and by no others. -/
theorem passed (call : PublicCall) (point : InitPoint) :
    (call.after host).hasPassed point = (host.hasPassed point || call.passes point) := by
  have booted := stage.booting new
  have finished := stage.finishing new
  cases call with
  | boot =>
      cases point with
      | beforeStartup => exact booted.hasPassed.trans (Bool.or_true _).symm
      | afterStartup =>
          exact (booted.hasPassed_of_ne (by decide)).trans (Bool.or_false _).symm
  | finishStartup =>
      cases point with
      | beforeStartup =>
          have early : InitPoint.beforeStartup ≠ .afterStartup := by decide
          have same := finished.hasPassed_of_ne early
          exact (same.trans booted.hasPassed).trans (Bool.or_true _).symm
      | afterStartup => exact finished.hasPassed.trans (Bool.or_true _).symm
  | stats => exact (Bool.or_false _).symm
  | isBooted => exact (Bool.or_false _).symm
  | registry call => exact (Bool.or_false _).symm

/-- During a call the initializers run of the points that it passes first. -/
theorem due_during (call : PublicCall) :
    (call.runs host).map Run.initializer = (call.after host).dueAt fun point =>
      call.passes point && !host.hasPassed point := by
  have booted := stage.booting new
  have finished := stage.finishing new
  cases call with
  | boot =>
      rw [PublicCall.runs, booted.due]
      change _ = host.boot.2.dueAt _
      cases early : host.hasPassed .beforeStartup <;> simp [dueAt, PublicCall.passes, early]
  | finishStartup =>
      have stays : host.finishStartup.2.registry.assembly = host.boot.2.registry.assembly :=
        finished.assembly booted.present
      rw [PublicCall.runs, List.map_append, booted.due, finished.due,
        booted.hasPassed_of_ne (by decide), ← Registry.due_congr stays]
      change _ = host.finishStartup.2.dueAt _
      cases early : host.hasPassed .beforeStartup <;>
        cases late : host.hasPassed .afterStartup <;>
          simp [dueAt, PublicCall.passes, early, late]
  | stats => simp [PublicCall.runs, dueAt, PublicCall.passes]
  | isBooted => simp [PublicCall.runs, dueAt, PublicCall.passes]
  | registry call => simp [PublicCall.runs, dueAt, PublicCall.passes]

theorem keeps_assemblies (calls : List PublicCall)
    (present : host.registry.assembly.isSome = true) :
    (host.called calls).registry.assembly = host.registry.assembly := by
  induction calls generalizing host runs with
  | nil => rfl
  | cons call rest ih =>
      have stays := stage.keeps_assembly new call present
      exact (ih (stage.after new call) (stays ▸ present)).trans stays

theorem keeps_all_failures (calls : List PublicCall) (kept : host.failures? point = some failures) :
    (host.called calls).failures? point = some failures := by
  induction calls generalizing host runs with
  | nil => exact kept
  | cons call rest ih => exact ih (stage.after new call) (stage.keeps_failures new call kept)

end

end Stage

theorem called_idle {calls : List PublicCall} (idle : ∀ call ∈ calls, call.assembles = false)
    (host : Host) : host.called calls = host := by
  induction calls with
  | nil => rfl
  | cons call rest ih =>
      have needs := idle call List.mem_cons_self
      have still : call.after host = host := by
        cases call with
        | isBooted => rfl
        | registry call => rw [PublicCall.after, Registry.after_idle needs]
        | _ => cases needs
      rw [called, List.foldl_cons, still]
      exact ih fun other member => idle other (List.mem_cons_of_mem call member)

/-- What is known of the initializers that wait in a registry: they have different numbers, and
stand in ascending priority. -/
theorem Ready.initializers {first registry : Registry} {names : List String}
    (ready : Ready first registry names) :
    ∃ initializers : List (Record (Live Initializer)),
      (∀ point, registry.due point =
        initializers.filter fun record => record.registration.initPoint == point) ∧
      (initializers.map fun record => record.plugin.id).Nodup ∧
      initializers.Pairwise fun first second => first.priority ≤ second.priority := by
  obtain ⟨log, held, -⟩ := ready
  refine ⟨_, fun point => by rw [Registry.due, held, Option.map_some, Option.getD_some], ?_, ?_⟩
  · exact Assembly.category_numbers Kind.all_faithful.2.1 _ _ _
  · exact Registry.category_ascending Kind.initializers _ _ _

/-- The initializers of both points still have different numbers. -/
theorem Ready.dueAt_numbers {first : Registry} {names : List String}
    (ready : Ready first host.registry names) (holds : InitPoint → Bool) :
    ((host.dueAt holds).map fun record => record.plugin.id).Nodup := by
  obtain ⟨initializers, due, numbers, -⟩ := ready.initializers
  have each (point : InitPoint) (record : Record (Live Initializer))
      (member : record ∈ if holds point then host.registry.due point else []) :
      record ∈ initializers ∧ record.registration.initPoint = point := by
    split at member
    · rw [due, List.mem_filter] at member
      exact ⟨member.1, beq_iff_eq.mp member.2⟩
    · cases member
  have part (point : InitPoint) : ((if holds point then host.registry.due point else []).map
      fun record => record.plugin.id).Nodup := by
    split
    · rw [due]
      exact numbers.sublist (List.filter_sublist.map _)
    · exact List.nodup_nil
  simp only [dueAt, List.flatMap_cons, List.flatMap_nil, List.append_nil, List.map_append]
  refine List.nodup_append.mpr ⟨part .beforeStartup, part .afterStartup, ?_⟩
  intro number early other late same
  obtain ⟨record, earlyIn, rfl⟩ := List.mem_map.mp early
  obtain ⟨another, lateIn, rfl⟩ := List.mem_map.mp late
  obtain ⟨oneIn, onePoint⟩ := each .beforeStartup record earlyIn
  obtain ⟨otherIn, otherPoint⟩ := each .afterStartup another lateIn
  have equal := List.inj_on_of_nodup_map numbers oneIn otherIn same
  rw [equal, otherPoint] at onePoint
  cases onePoint

theorem dueAt_congr {holds others : InitPoint → Bool}
    (same : ∀ point, holds point = others point)
    (due : ∀ point, holds point = true → next.registry.due point = host.registry.due point) :
    next.dueAt holds = host.dueAt others := by
  have each (point : InitPoint) : (if holds point then next.registry.due point else []) =
      if others point then host.registry.due point else [] := by
    rw [← same point]
    split
    · rename_i held
      exact due point held
    · rfl
  simp only [dueAt, each]

/-- What is promised of a host whatever calls are made. The initializers of a point run during the
first call that passes it, all of them and in ascending priority. By then everything is prepared.
Each run meets what the one before it has left and leaves what it has done, and what has failed is
the answer to every call that passes the point. -/
structure Orderly (start : Host) (calls : List PublicCall) : Prop where
  once : ((start.runs calls).map Run.number).Nodup
  during : ∀ before call after, calls = before ++ call :: after →
    (call.runs (start.called before)).map Run.initializer =
      (start.called calls).dueAt fun point =>
        call.passes point && !before.any fun earlier => earlier.passes point
  whole : (start.runs calls).map Run.initializer =
    (start.called calls).dueAt fun point => calls.any fun call => call.passes point
  ascending : ∀ point, ((start.called calls).registry.due point).Pairwise
    fun first second => first.priority ≤ second.priority
  idle : (∀ call ∈ calls, call.assembles = false) → start.called calls = start
  prepared : (∃ call ∈ calls, call.assembles = true) → ∃ log : List Log.Entry,
    let result := Assembly.run start.registry.discovery
      { start.registry.factory with world := { start.registry.world with log := log } }
    (start.called calls).registry.assembly = some result.assembly ∧
      World.Prepares start.registry.world result.factory.world ∧
      Initializes result.factory.world (start.called calls).registry.world
        ((start.runs calls).map Run.name)
  followed : ∀ before call after, calls = before ++ call :: after →
    call.passes .beforeStartup = true → ∃ opened, (start.called before).registry.Opens opened ∧
      Leads opened (call.runs (start.called before)) (call.after (start.called before)).registry
  stays : ∀ run ∈ start.runs calls, run.met.Performs run.visits run.left
  booted : ∀ before after, calls = before ++ .boot :: after →
    (start.called before).boot.1 = failuresAt .beforeStartup (start.runs calls)
  finished : ∀ before after, calls = before ++ .finishStartup :: after →
    (start.called before).finishStartup.1 = failuresAt .afterStartup (start.runs calls)

section
variable (new : New start)
include new

theorem New.reaches (calls : List PublicCall) :
    Stage start (start.called calls) (start.runs calls) :=
  new.stage.called new calls

theorem New.passed (calls : List PublicCall) (point : InitPoint) :
    (start.called calls).hasPassed point = calls.any fun call => call.passes point := by
  induction calls using List.reverseRecOn with
  | nil => exact hasPassed_of_none (new.nothing point)
  | append_singleton calls call ih =>
      rw [called_append, List.any_append, ← ih, List.any_cons, List.any_nil, Bool.or_false]
      exact (new.reaches calls).passed new call point

theorem New.assembles {calls : List PublicCall} (some : ∃ call ∈ calls, call.assembles = true) :
    (start.called calls).registry.assembly.isSome = true := by
  obtain ⟨call, member, needs⟩ := some
  obtain ⟨before, after, rfl⟩ := List.append_of_mem member
  have stage := new.reaches before
  have present := stage.assembles new needs
  rw [called_append]
  change ((call.after (start.called before)).called after).registry.assembly.isSome = true
  rw [(stage.after new call).keeps_assemblies new after present, present]

/-- In the end the same initializers wait as after the call, if the call runs any. -/
theorem New.due_after {before after : List PublicCall} {call : PublicCall} {point : InitPoint}
    (passes : call.passes point = true) :
    (start.called (before ++ call :: after)).registry.due point =
      (call.after (start.called before)).registry.due point := by
  have stage := new.reaches before
  have needs : call.assembles = true := by
    cases call with
    | boot => rfl
    | finishStartup => rfl
    | _ => cases passes
  rw [called_append]
  exact Registry.due_congr
    ((stage.after new call).keeps_assemblies new after (stage.assembles new needs)) point

/-- Each call is answered with what is kept in the end. -/
theorem New.answered {before after : List PublicCall} {call : PublicCall}
    (kept : (call.after (start.called before)).failures? point = some answer) :
    answer = failuresAt point (start.runs (before ++ call :: after)) := by
  have stage := (new.reaches before).after new call
  have still := stage.keeps_all_failures new after kept
  refine (new.reaches (before ++ call :: after)).failed point answer ?_
  rw [called_append]
  exact still

/-- The initializers of the points that are passed have run, and no others. -/
theorem New.whole (calls : List PublicCall) : (start.runs calls).map Run.initializer =
    (start.called calls).dueAt fun point => calls.any fun call => call.passes point := by
  have stage := new.reaches calls
  rw [stage.parted, List.map_append, stage.ran, stage.ran, new.passed, new.passed]
  simp [dueAt]

theorem New.once (calls : List PublicCall) : ((start.runs calls).map Run.number).Nodup := by
  have stage := new.reaches calls
  cases held : (start.called calls).registry.assembly with
  | none =>
      obtain ⟨-, nothing⟩ := stage.waits held
      rw [nothing]
      exact List.nodup_nil
  | some assembly =>
      have ready := stage.ready (by rw [held]; rfl)
      have numbers := ready.dueAt_numbers fun point => calls.any fun call => call.passes point
      rw [← new.whole, List.map_map] at numbers
      exact numbers

theorem New.ascending (calls : List PublicCall) (point : InitPoint) :
    ((start.called calls).registry.due point).Pairwise
      fun first second => first.priority ≤ second.priority := by
  cases held : (start.called calls).registry.assembly with
  | none =>
      rw [Registry.due, held]
      exact .nil
  | some assembly =>
      have ready := (new.reaches calls).ready (by rw [held]; rfl)
      obtain ⟨initializers, due, -, ascending⟩ := ready.initializers
      rw [due]
      exact ascending.sublist List.filter_sublist

/-- Finishing runs the late initializers on what booting has left. -/
theorem New.followed (before : List PublicCall) {call : PublicCall}
    (passes : call.passes .beforeStartup = true) :
    ∃ opened, (start.called before).registry.Opens opened ∧
      Leads opened (call.runs (start.called before))
        (call.after (start.called before)).registry := by
  have booted := (new.reaches before).booting new
  have finished := (new.reaches before).finishing new
  cases call with
  | boot => exact booted.leads
  | finishStartup =>
      obtain ⟨opened, opens, early⟩ := booted.leads
      obtain ⟨again, reopens, late⟩ := finished.leads
      exact ⟨opened, opens, early.trans (late.logged (reopens.logs booted.present))⟩
  | _ => cases passes

/-- A host keeps its promises, whatever calls are made. -/
theorem New.orderly (calls : List PublicCall) : Orderly start calls where
  once := new.once calls
  during := by
    rintro before call after rfl
    rw [(new.reaches before).due_during new]
    refine dueAt_congr (fun point => by rw [new.passed]) fun point first => ?_
    exact (new.due_after (Bool.and_eq_true_iff.mp first).1).symm
  whole := new.whole calls
  ascending := new.ascending calls
  idle := fun idle => called_idle idle start
  prepared := by
    intro some
    obtain ⟨log, held, initialized⟩ := (new.reaches calls).ready (new.assembles some)
    refine ⟨log, held, ?_, initialized⟩
    obtain ⟨sections, world, fresh⟩ := new.factory
    rw [fresh]
    exact Assembly.run_prepares start.registry.discovery sections
      { start.registry.world with log := log }
  followed := fun before _ _ _ passes => new.followed before passes
  stays := fun run _ => run.performs
  booted := by
    rintro before after rfl
    exact new.answered ((new.reaches before).booting new).kept
  finished := by
    rintro before after rfl
    exact new.answered ((new.reaches before).finishing new).kept

end

theorem create_new (discovery : Discovery) (settings : Settings) (world : World) :
    New (create discovery settings world) where
  registry := rfl
  factory := ⟨_, _, rfl⟩
  nothing point := by
    cases point with
    | beforeStartup => rfl
    | afterStartup => rfl

/-- An initializer that adds a service and then panics. -/
def mounter : Initializer where
  init _ :=
    .ask (.addService ⟨.service, "Api", { name := "api" }, hostVersion, []⟩ [] {}) fun _ =>
      .finish (.panicked .untold)

def mounting : Discovery
  | .initializer => [{
      descriptor := {
        category := .initializer
        className := "Mounter"
        registration := { name := "mounter", initPoint := .beforeStartup } }
      constructor := some (.done (.initializer mounter)) }]
  | _ => []

/-- The initializer runs once, every answer names it, and its service is there. -/
example :
    let calls : List PublicCall := [.registry .services, .stats, .finishStartup, .boot]
    let ended := (create mounting {} {}).called calls
    ((create mounting {} {}).runs calls).map Run.name = ["mounter"] ∧
      ended.boot.1.map InitializerFailure.initializer = ["mounter"] ∧
      ended.registry.services.map Record.name = ["api"] := by
  decide +kernel

end PluginHost.Host
