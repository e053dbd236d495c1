import PluginHost.Proofs.Startup.Passing

/-
This file says how far the calls of its users take a host. What has run so far and what is kept of
it follow from the points that are passed.
-/

namespace PluginHost.Host

/-- The calls that a host and its registry offer. -/
inductive PublicCall where
  | boot
  | finishStartup
  | stats
  | isBooted
  | registry (call : Registry.PublicCall)

namespace PublicCall

/-- Finishing the startup boots first, so it passes both points. -/
def passes : PublicCall → InitPoint → Bool
  | boot, .beforeStartup => true
  | finishStartup, _ => true
  | _, _ => false

def assembles : PublicCall → Bool
  | isBooted => false
  | registry call => call.assembles
  | _ => true

/-- What a call leaves of the host. -/
def after (host : Host) : PublicCall → Host
  | boot => host.boot.2
  | finishStartup => host.finishStartup.2
  | stats => host.stats.2
  | isBooted => host
  | registry call => { host with registry := call.after host.registry }

/-- The runs of initializers during a call. -/
def runs (host : Host) : PublicCall → List Run
  | boot => host.earlyRuns
  | finishStartup => host.earlyRuns ++ host.boot.2.lateRuns
  | _ => []

end PublicCall

def called (host : Host) (calls : List PublicCall) : Host :=
  calls.foldl PublicCall.after host

def runs (host : Host) : List PublicCall → List Run
  | [] => []
  | call :: rest => call.runs host ++ (call.after host).runs rest

def runsAt (point : InitPoint) (runs : List Run) : List Run :=
  runs.filter fun run => run.point == point

/-- The runs of one point that have failed, in their order. -/
def failuresAt (point : InitPoint) (runs : List Run) : List InitializerFailure :=
  (runsAt point runs).filterMap Run.failure?

variable {start host next : Host} {point : InitPoint} {runs more : List Run}
  {answer : List InitializerFailure}

theorem called_append (host : Host) (calls others : List PublicCall) :
    host.called (calls ++ others) = (host.called calls).called others :=
  List.foldl_append

theorem runsAt_append (point : InitPoint) (runs more : List Run) :
    runsAt point (runs ++ more) = runsAt point runs ++ runsAt point more :=
  List.filter_append ..

/-- All the runs of a passing are runs of its point. -/
theorem Passes.runsAt (passes : Passes point host more answer next) (any : InitPoint) :
    Host.runsAt any more = if any = point then more else [] := by
  have here : ∀ run ∈ more, run.point = point := by
    intro run member
    have due := List.mem_map_of_mem (f := Run.initializer) member
    rw [passes.due] at due
    split at due
    · cases due
    · exact Registry.point_of_due due
  split
  · rename_i equal
    exact List.filter_eq_self.mpr fun run member => beq_iff_eq.mpr (equal ▸ here run member)
  · rename_i different
    refine List.filter_eq_nil_iff.mpr fun run member same => different ?_
    rw [← beq_iff_eq.mp same, here run member]

theorem Passes.repeated (passes : Passes point host more answer next)
    {failures : List InitializerFailure} (passed : host.failures? point = some failures) :
    more = [] := by
  have due := passes.due
  rw [hasPassed_of_failures passed] at due
  exact List.map_eq_nil_iff.mp due

/-- The registry is assembled from what was there at the start. Since then initializers were run,
those of the list and in its order. -/
def Ready (start registry : Registry) (names : List String) : Prop :=
  ∃ log : List Log.Entry,
    let result := Assembly.run start.discovery
      { start.factory with world := { start.world with log := log } }
    registry.assembly = some result.assembly ∧
      Initializes result.factory.world registry.world names

namespace Ready

variable {first registry : Registry} {names : List String}

theorem opened {opened : Registry} (new : first.assembly = none) (opens : first.Opens opened) :
    Ready first opened [] := by
  obtain ⟨noted, ⟨entries, rfl⟩, logs⟩ := opens
  refine ⟨first.world.log ++ entries, ?_, .of_journal ?_⟩
  · rw [logs.assembly, Registry.assembled, Registry.assemble]
    simp only [Registry.setWorld, new]
  · rw [logs.journal, Registry.assembled, Registry.assemble]
    simp only [Registry.setWorld, new]
    rfl

/-- Whoever meets the same assembly may run more initializers. -/
theorem follow {after : Registry} {more : List String} (ready : Ready first registry names)
    (stays : after.assembly = registry.assembly)
    (later : Initializes registry.world after.world more) : Ready first after (names ++ more) := by
  obtain ⟨log, held, shown⟩ := ready
  exact ⟨log, stays.trans held, shown.trans later⟩

end Ready

/-- How far a host has come from its start. The initializers of the points that are passed have
run, the early ones first, and what failed of them is kept. -/
structure Stage (start host : Host) (runs : List Run) : Prop where
  waits : host.registry.assembly = none → host = start ∧ runs = []
  ready : host.registry.assembly.isSome = true →
    Ready start.registry host.registry (runs.map Run.name)
  ran : ∀ point, (runsAt point runs).map Run.initializer =
    if host.hasPassed point then host.registry.due point else []
  failed : ∀ point failures, host.failures? point = some failures →
    failures = failuresAt point runs
  parted : runs = runsAt .beforeStartup runs ++ runsAt .afterStartup runs
  ordered : host.afterStartup.isSome = true → host.beforeStartup.isSome = true

/-- A host that has not been called yet. -/
structure New (host : Host) : Prop where
  registry : host.registry.assembly = none
  factory : ∃ sections world, host.registry.factory = { sections := sections, world := world }
  nothing : ∀ point, host.failures? point = none

theorem New.stage (new : New start) : Stage start start [] where
  waits _ := ⟨rfl, rfl⟩
  ready present := by
    rw [new.registry] at present
    cases present
  ran point := by
    rw [hasPassed_of_none (new.nothing point)]
    rfl
  failed point failures kept := by
    rw [new.nothing point] at kept
    cases kept
  parted := rfl
  ordered late := by
    have nothing : start.afterStartup = none := new.nothing .afterStartup
    rw [nothing] at late
    cases late

namespace Stage

section
variable (stage : Stage start host runs)
include stage

theorem settled (new : New start) (point : InitPoint)
    (passed : host.hasPassed point = true) : host.registry.assembly.isSome = true := by
  cases held : host.registry.assembly with
  | some assembly => rfl
  | none =>
      obtain ⟨rfl, -⟩ := stage.waits held
      rw [hasPassed_of_none (new.nothing point)] at passed
      cases passed

/-- Once it is assembled, the registry is ready. -/
theorem opened (new : New start) {opened : Registry} (opens : host.registry.Opens opened) :
    Ready start.registry opened (runs.map Run.name) := by
  cases held : host.registry.assembly with
  | none =>
      obtain ⟨rfl, rfl⟩ := stage.waits held
      exact .opened held opens
  | some assembly =>
      have present : host.registry.assembly.isSome = true := by rw [held]; rfl
      have logs := opens.logs present
      have ready := (stage.ready present).follow logs.assembly (.of_journal logs.journal)
      rwa [List.append_nil] at ready

theorem unpassed (point : InitPoint) (waits : host.failures? point = none) :
    runsAt point runs = [] := by
  have ran := stage.ran point
  rw [hasPassed_of_none waits] at ran
  exact List.map_eq_nil_iff.mp ran

theorem pass_ran (new : New start) (passes : Passes point host more answer next)
    (any : InitPoint) : (runsAt any (runs ++ more)).map Run.initializer =
      if next.hasPassed any then next.registry.due any else [] := by
  have same (passed : host.hasPassed any = true) :
      next.registry.due any = host.registry.due any :=
    Registry.due_congr (passes.assembly (stage.settled new any passed)) any
  rw [runsAt_append, passes.runsAt, List.map_append, stage.ran]
  by_cases equal : any = point
  · subst equal
    rw [if_pos rfl, passes.due, passes.hasPassed]
    cases passed : host.hasPassed any with
    | false => rfl
    | true =>
        rw [same passed]
        exact List.append_nil _
  · rw [if_neg equal, passes.hasPassed_of_ne equal, List.map_nil, List.append_nil]
    split
    · rename_i passed
      rw [same passed]
    · rfl

theorem pass_failed (passes : Passes point host more answer next) {any : InitPoint}
    {failures : List InitializerFailure} (kept : next.failures? any = some failures) :
    failures = failuresAt any (runs ++ more) := by
  rw [failuresAt, runsAt_append, passes.runsAt]
  by_cases equal : any = point
  · subst equal
    rw [passes.kept] at kept
    obtain rfl := Option.some.inj kept
    rw [if_pos rfl, passes.answered]
    cases passed : host.failures? any with
    | none =>
        rw [stage.unpassed any passed]
        rfl
    | some failures =>
        rw [passes.repeated passed, List.append_nil]
        exact stage.failed any failures passed
  · rw [passes.others any equal] at kept
    rw [if_neg equal, List.append_nil]
    exact stage.failed any failures kept

theorem pass_parted (passes : Passes point host more answer next) :
    runs ++ more = runsAt .beforeStartup (runs ++ more) ++ runsAt .afterStartup (runs ++ more) := by
  rw [runsAt_append, runsAt_append, passes.runsAt, passes.runsAt]
  cases point with
  | afterStartup =>
      rw [if_neg (by decide), if_pos rfl, List.append_nil, ← List.append_assoc, ← stage.parted]
  | beforeStartup =>
      rw [if_pos rfl, if_neg (by decide), List.append_nil]
      cases passed : host.beforeStartup with
      | some failures =>
          rw [passes.repeated passed, List.append_nil, List.append_nil, ← stage.parted]
      | none =>
          -- Where nothing is booted, nothing can have run after startup either.
          have late : host.afterStartup = none := by
            rw [← Option.not_isSome_iff_eq_none]
            intro absurd
            have early := stage.ordered absurd
            rw [passed] at early
            cases early
          have early := stage.unpassed .beforeStartup passed
          have nothing : runs = [] := by
            rw [stage.parted, early, stage.unpassed .afterStartup late]
            rfl
          rw [nothing]
          exact (List.append_nil _).symm

/-- Passing a point adds its runs behind the others. -/
theorem pass (new : New start) (passes : Passes point host more answer next)
    (sequence : point = .afterStartup → host.beforeStartup.isSome = true) :
    Stage start next (runs ++ more) where
  waits absurd := by
    have present := passes.present
    rw [absurd] at present
    cases present
  ready _ := by
    obtain ⟨opened, opens, leads⟩ := passes.leads
    obtain ⟨stays, shown⟩ := leads.spec opens.present
    rw [List.map_append]
    exact (stage.opened new opens).follow stays shown
  ran := stage.pass_ran new passes
  failed _ _ := stage.pass_failed passes
  parted := stage.pass_parted passes
  ordered late := by
    cases point with
    | beforeStartup =>
        have kept : next.beforeStartup = some answer := passes.kept
        rw [kept]
        rfl
    | afterStartup =>
        have same : next.beforeStartup = host.beforeStartup :=
          passes.others .beforeStartup (by decide)
        rw [same]
        exact sequence rfl

theorem booting (new : New start) :
    Passes .beforeStartup host host.earlyRuns host.boot.1 host.boot.2 :=
  boot_passes (stage.settled new .beforeStartup)

theorem finishing (new : New start) :
    Passes .afterStartup host.boot.2 host.boot.2.lateRuns host.finishStartup.1
      host.finishStartup.2 := by
  rw [finishStartup_eq]
  exact concluded_passes (stage.booting new).present

/-- A call that runs nothing may assemble the registry and change it then. -/
theorem change (new : New start) {registry : Registry}
    (stays : registry.assembly = host.registry.assembled.assembly)
    (reads : Interception.Reads host.registry.assembled.world registry.world) :
    Stage start { host with registry := registry } runs where
  waits absurd := by
    have present := host.registry.assembled_present
    change registry.assembly = none at absurd
    rw [← stays, absurd] at present
    cases present
  ready _ := by
    have ready := (stage.opened new ⟨host.registry, .refl _, .refl _⟩).follow stays
      (.of_reads reads)
    rwa [List.append_nil] at ready
  ran point := by
    rw [stage.ran]
    change _ = if host.hasPassed point then registry.due point else []
    split
    · rename_i passed
      rw [Registry.assembled_eq (stage.settled new point passed)] at stays
      rw [Registry.due_congr stays]
    · rfl
  failed := stage.failed
  parted := stage.parted
  ordered := stage.ordered

/-- What one call does. -/
theorem after (new : New start) (call : PublicCall) :
    Stage start (call.after host) (runs ++ call.runs host) := by
  have still : Stage start host (runs ++ []) := by rwa [List.append_nil]
  cases call with
  | boot => exact stage.pass new (stage.booting new) fun other => by cases other
  | finishStartup =>
      have booted := stage.pass new (stage.booting new) fun other => by cases other
      rw [PublicCall.runs, ← List.append_assoc]
      refine booted.pass new (stage.finishing new) fun _ => ?_
      have kept : host.boot.2.beforeStartup = some host.boot.1 := (stage.booting new).kept
      rw [kept]
      rfl
  | stats => exact still.change new rfl (.refl _)
  | isBooted => exact still
  | registry call =>
      cases assembles : call.assembles with
      | false =>
          rw [PublicCall.after, Registry.after_idle assembles]
          exact still
      | true =>
          have keeps := Registry.after_keeps host.registry.assembled_present call
          rw [Registry.after_assembled assembles] at keeps
          exact still.change new keeps.1 keeps.2

theorem called (new : New start) (calls : List PublicCall) :
    Stage start (host.called calls) (runs ++ host.runs calls) := by
  induction calls generalizing host runs with
  | nil => rwa [Host.runs, List.append_nil]
  | cons call rest ih =>
      rw [Host.runs, ← List.append_assoc]
      exact ih (stage.after new call)

end

end Stage

end PluginHost.Host
