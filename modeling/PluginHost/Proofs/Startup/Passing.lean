import PluginHost.Proofs.Startup.Runs

/-
This file says what the calls of a host do. Booting passes the first point of the startup and
finishing passes the second one, and what is passed stays passed.
-/

namespace PluginHost

/-- The second registry is the first one once it is assembled, but for the log. -/
def Registry.Opens (before after : Registry) : Prop :=
  ∃ noted, before.Logs noted ∧ noted.assembled.Logs after

theorem Registry.Opens.present {before after : Registry} (opens : before.Opens after) :
    after.assembly.isSome = true := by
  obtain ⟨noted, -, logs⟩ := opens
  rw [logs.assembly]
  exact noted.assembled_present

/-- Nothing is assembled a second time. -/
theorem Registry.Opens.logs {before after : Registry} (opens : before.Opens after)
    (present : before.assembly.isSome = true) : before.Logs after := by
  obtain ⟨noted, first, second⟩ := opens
  rw [assembled_eq (first.assembly ▸ present)] at second
  exact first.trans second

namespace Host

variable {host next : Host} {point : InitPoint} {runs : List Run}
  {answer failures : List InitializerFailure}

/-- The failures that are kept of a point, once it is passed. -/
def failures? (host : Host) : InitPoint → Option (List InitializerFailure)
  | .beforeStartup => host.beforeStartup
  | .afterStartup => host.afterStartup

def hasPassed (host : Host) (point : InitPoint) : Bool := (host.failures? point).isSome

theorem hasPassed_of_failures (kept : host.failures? point = some failures) :
    host.hasPassed point = true := by
  rw [hasPassed, kept]
  rfl

theorem hasPassed_of_none (nothing : host.failures? point = none) :
    host.hasPassed point = false := by
  rw [hasPassed, nothing]
  rfl

/-- The initializers of the points for which the condition holds, the early ones first. -/
def dueAt (host : Host) (holds : InitPoint → Bool) : List (Record (Live Initializer)) :=
  [InitPoint.beforeStartup, .afterStartup].flatMap fun point =>
    if holds point then host.registry.due point else []

/-- The registry that the first early initializer meets. -/
def opened (host : Host) : Registry :=
  let span := bootSpan host.settings
  let host := (host.mark (.opened span)).mark (.entered span)
  let (assembly, registry) := host.registry.assemble
  let failed := assembly.report.failures.length
  if failed = 0 then registry else registry.report (withoutDependencies failed)

/-- The late initializers run, and the startup is complete. -/
def conclude (host : Host) : List InitializerFailure × Host :=
  let late := runInitializers host.registry .afterStartup
  let counted := { host with registry := late.2 }.stats
  (late.1, { counted.2.report (completeEvent counted.1) with afterStartup := some late.1 })

/-- The rest of a startup, once the host is booted. -/
def concluded (host : Host) : List InitializerFailure × Host :=
  match host.afterStartup with
  | some failures => (failures, host)
  | none => host.conclude

theorem finishStartup_eq (host : Host) : host.finishStartup = host.boot.2.concluded := rfl

/-- The initializers that booting runs. -/
def earlyRuns (host : Host) : List Run :=
  match host.beforeStartup with
  | some _ => []
  | none => runsFrom (host.opened.due .beforeStartup) host.opened

/-- The initializers that the rest of the startup runs. -/
def lateRuns (host : Host) : List Run :=
  match host.afterStartup with
  | some _ => []
  | none => runsFrom (host.registry.due .afterStartup) host.registry

/-- The point is passed. If it was not, its initializers have been run in turn, and their failures
are kept for every later call. -/
structure Passes (point : InitPoint) (host : Host) (runs : List Run)
    (answer : List InitializerFailure) (next : Host) : Prop where
  due : runs.map Run.initializer =
    if host.hasPassed point then [] else next.registry.due point
  answered : answer = (host.failures? point).getD (runs.filterMap Run.failure?)
  kept : next.failures? point = some answer
  others : ∀ other, other ≠ point → next.failures? other = host.failures? other
  leads : ∃ opened, host.registry.Opens opened ∧ Leads opened runs next.registry

theorem Passes.present (passes : Passes point host runs answer next) :
    next.registry.assembly.isSome = true := by
  obtain ⟨opened, opens, leads⟩ := passes.leads
  rw [(leads.spec opens.present).1]
  exact opens.present

theorem Passes.assembly (passes : Passes point host runs answer next)
    (present : host.registry.assembly.isSome = true) :
    next.registry.assembly = host.registry.assembly := by
  obtain ⟨opened, opens, leads⟩ := passes.leads
  rw [(leads.spec opens.present).1, (opens.logs present).assembly]

theorem Passes.hasPassed (passes : Passes point host runs answer next) :
    next.hasPassed point = true :=
  hasPassed_of_failures passes.kept

theorem Passes.hasPassed_of_ne (passes : Passes point host runs answer next) {other : InitPoint}
    (different : other ≠ point) : next.hasPassed other = host.hasPassed other := by
  rw [Host.hasPassed, Host.hasPassed, passes.others other different]

/-- Where a point is passed already, nothing happens. -/
theorem Passes.again (present : host.registry.assembly.isSome = true)
    (passed : host.failures? point = some failures) : Passes point host [] failures host where
  due := by rw [hasPassed_of_failures passed]; rfl
  answered := by rw [passed]; rfl
  kept := passed
  others _ _ := rfl
  leads := by
    refine ⟨host.registry, ⟨host.registry, .refl _, ?_⟩, .still (.refl _)⟩
    rw [Registry.assembled_eq present]
    exact .refl _

theorem opened_opens (host : Host) : host.registry.Opens host.opened := by
  let span := bootSpan host.settings
  let marked := (host.mark (.opened span)).mark (.entered span)
  have marks : host.registry.Logs marked.registry :=
    (Registry.Logs.mark host.registry (.opened span)).trans (.mark _ (.entered span))
  refine ⟨marked.registry, marks, ?_⟩
  let failed := marked.registry.assemble.1.report.failures.length
  change marked.registry.assembled.Logs (if failed = 0 then marked.registry.assembled
    else marked.registry.assembled.report (withoutDependencies failed))
  split
  · exact .refl _
  · exact .report _ _

theorem runInitializers_spec {registry : Registry} (present : registry.assembly.isSome = true)
    (point : InitPoint) :
    (runInitializers registry point).1 =
        (runsFrom (registry.due point) registry).filterMap Run.failure? ∧
      Leads registry (runsFrom (registry.due point) registry)
        (runInitializers registry point).2 := by
  obtain ⟨assembly, held⟩ := Option.isSome_iff_exists.mp present
  have same : runInitializers registry point = runAll point (registry.due point) registry := by
    simp [runInitializers, Registry.assemble, Registry.due, held]
  rw [same]
  exact runAll_spec (fun _ member => Registry.point_of_due member) registry

/-- A point is passed by a host that has run its initializers and keeps what failed. -/
theorem Passes.of_runs {opened : Registry} (new : host.failures? point = none)
    (opens : host.registry.Opens opened)
    (leads : Leads opened (runsFrom (opened.due point) opened) next.registry)
    (kept : next.failures? point =
      some ((runsFrom (opened.due point) opened).filterMap Run.failure?))
    (others : ∀ other, other ≠ point → next.failures? other = host.failures? other) :
    Passes point host (runsFrom (opened.due point) opened)
      ((runsFrom (opened.due point) opened).filterMap Run.failure?) next where
  due := by
    rw [runsFrom_initializers, hasPassed_of_none new,
      Registry.due_congr (leads.spec opens.present).1]
    rfl
  answered := by rw [new]; rfl
  kept := kept
  others := others
  leads := ⟨opened, opens, leads⟩

theorem boot_passes
    (settled : host.beforeStartup.isSome = true → host.registry.assembly.isSome = true) :
    Passes .beforeStartup host host.earlyRuns host.boot.1 host.boot.2 := by
  cases passed : host.beforeStartup with
  | some failures =>
      have same : host.boot = (failures, host) := by rw [boot, passed]
      have nothing : host.earlyRuns = [] := by rw [earlyRuns, passed]
      rw [same, nothing]
      exact .again (settled (by rw [passed]; rfl)) passed
  | none =>
      have opens := host.opened_opens
      obtain ⟨failed, leads⟩ := runInitializers_spec opens.present .beforeStartup
      have ran : host.earlyRuns = runsFrom (host.opened.due .beforeStartup) host.opened := by
        rw [earlyRuns, passed]
      have booted : host.boot =
          ((runInitializers host.opened .beforeStartup).1,
            { host with
              registry := (runInitializers host.opened .beforeStartup).2
              beforeStartup := some (runInitializers host.opened .beforeStartup).1 }.mark
                (.left (bootSpan host.settings))) := by
        rw [boot, passed]
        rfl
      rw [booted, ran, failed]
      refine .of_runs passed opens ?_ rfl ?_
      · rw [← List.append_nil (runsFrom _ _)]
        exact leads.trans (.still (.mark _ _))
      · intro other different
        cases other with
        | beforeStartup => exact absurd rfl different
        | afterStartup => rfl

theorem concluded_passes (present : host.registry.assembly.isSome = true) :
    Passes .afterStartup host host.lateRuns host.concluded.1 host.concluded.2 := by
  cases passed : host.afterStartup with
  | some failures =>
      have same : host.concluded = (failures, host) := by rw [concluded, passed]
      have nothing : host.lateRuns = [] := by rw [lateRuns, passed]
      rw [same, nothing]
      exact .again present passed
  | none =>
      obtain ⟨failed, leads⟩ := runInitializers_spec present .afterStartup
      have ran : host.lateRuns = runsFrom (host.registry.due .afterStartup) host.registry := by
        rw [lateRuns, passed]
      have done : host.concluded = host.conclude := by rw [concluded, passed]
      let late := runInitializers host.registry .afterStartup
      let counted := { host with registry := late.2 }.stats
      have held : late.2.assembly.isSome = true := by rw [(leads.spec present).1, present]
      have stays : late.2.assembled = late.2 := Registry.assembled_eq held
      have reported : late.2.assembled.Logs
          (counted.2.report (completeEvent counted.1)).registry := .report late.2.assembled _
      rw [stays] at reported
      have answered : host.conclude.1 = late.1 := rfl
      rw [done, ran, answered, failed]
      refine .of_runs passed ⟨host.registry, .refl _, ?_⟩ ?_ (congrArg some failed) ?_
      · rw [Registry.assembled_eq present]
        exact .refl _
      · rw [← List.append_nil (runsFrom _ _)]
        exact leads.trans (.still reported)
      · intro other different
        cases other with
        | beforeStartup => rfl
        | afterStartup => exact absurd rfl different

end Host

end PluginHost
