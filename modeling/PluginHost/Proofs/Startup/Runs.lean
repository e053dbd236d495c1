import PluginHost.Proofs.Registry.Calling
import PluginHost.Proofs.Registry.Transparency
import PluginHost.Proofs.Startup.Preparation
import PluginHost.Startup

/-
This file follows initializers that run one after the other. Each of them meets the registry that
the one before it has left, whether that one has failed or not.
-/

namespace PluginHost

/-- The initializer that the entry shows at the beginning of its run. -/
def JournalEntry.initializer? (entry : JournalEntry) : Option String :=
  match entry.call with
  | .init name => some name
  | _ => none

/-- Between the two worlds initializers were run, those of the list and in its order, and no
plugin was prepared. -/
def Initializes (before after : World) (names : List String) : Prop :=
  ∃ added, after.journal = before.journal ++ added ∧
    added.filterMap JournalEntry.initializer? = names ∧
      ∀ entry ∈ added, entry.call.prepares = false

/-- What an initializer lets the host call while it runs. -/
def Call.IsErrand (call : Call) : Prop :=
  call.IsContract ∨ ∃ plugin label detail, call = .note plugin label detail

namespace Initializes

variable {before between after : World} {names more : List String}

theorem trans (first : Initializes before between names)
    (second : Initializes between after more) : Initializes before after (names ++ more) := by
  obtain ⟨early, earlyAdded, rfl, earlyCalls⟩ := first
  obtain ⟨late, lateAdded, rfl, lateCalls⟩ := second
  refine ⟨early ++ late, by rw [lateAdded, earlyAdded, List.append_assoc],
    List.filterMap_append, ?_⟩
  intro entry member
  rcases List.mem_append.mp member with first | second
  · exact earlyCalls entry first
  · exact lateCalls entry second

theorem of_errands (errands : World.Grows Call.IsErrand before after) :
    Initializes before after [] := by
  obtain ⟨added, journal, calls⟩ := errands
  have each : ∀ entry ∈ added, entry.initializer? = none ∧ entry.call.prepares = false := by
    intro entry member
    rw [JournalEntry.initializer?]
    rcases calls entry member with ⟨plugin, same⟩ | ⟨plugin, label, detail, same⟩
    · rw [same]
      exact ⟨rfl, rfl⟩
    · rw [same]
      exact ⟨rfl, rfl⟩
  exact ⟨added, journal, List.filterMap_eq_nil_iff.mpr fun entry member => (each entry member).1,
    fun entry member => (each entry member).2⟩

theorem of_reads (reads : Interception.Reads before after) : Initializes before after [] :=
  of_errands (reads.mono fun _ contract => .inl contract)

theorem of_journal (same : after.journal = before.journal) : Initializes before after [] :=
  of_reads (.of_journal same)

theorem init (world : World) (name : String) (shown : Bool) :
    Initializes world (world.called (.init name) shown) [name] :=
  ⟨[⟨.init name, shown⟩], rfl, rfl, fun entry member => by
    rw [List.mem_singleton.mp member]
    rfl⟩

end Initializes

namespace Registry

variable {registry before between after : Registry}

/-- The registries are the same but for what was written into the log. -/
def Logs (before after : Registry) : Prop :=
  ∃ entries, after = before.setWorld { before.world with log := before.world.log ++ entries }

namespace Logs

theorem refl (registry : Registry) : Logs registry registry :=
  ⟨[], by rw [List.append_nil]; rfl⟩

theorem trans (first : Logs before between) (second : Logs between after) : Logs before after := by
  obtain ⟨early, rfl⟩ := first
  obtain ⟨late, rfl⟩ := second
  exact ⟨early ++ late, by rw [← List.append_assoc]; rfl⟩

theorem report (registry : Registry) (event : Log.Event) : Logs registry (registry.report event) :=
  ⟨[.event event], rfl⟩

theorem mark (registry : Registry) (entry : Log.Entry) :
    Logs registry (registry.setWorld (registry.world.mark entry)) :=
  ⟨[entry], rfl⟩

theorem assembly (logs : Logs before after) : after.assembly = before.assembly := by
  obtain ⟨entries, rfl⟩ := logs
  rfl

theorem journal (logs : Logs before after) : after.world.journal = before.world.journal := by
  obtain ⟨entries, rfl⟩ := logs
  rfl

end Logs

/-- The initializers of one point, once they are there. -/
def due (registry : Registry) (point : InitPoint) : List (Record (Live Initializer)) :=
  ((registry.assembly.map Assembly.initializers).getD []).filter fun record =>
    record.registration.initPoint == point

theorem point_of_due {point : InitPoint} {initializer : Record (Live Initializer)}
    (member : initializer ∈ registry.due point) : initializer.registration.initPoint = point := by
  rw [due, List.mem_filter] at member
  exact beq_iff_eq.mp member.2

theorem due_congr (same : after.assembly = before.assembly) (point : InitPoint) :
    after.due point = before.due point := by
  rw [due, due, same]

/-- Whatever an initializer asks for, the assembly stays, and contracts are read at most. -/
theorem carryOut_keeps (present : registry.assembly.isSome = true) (request : Request) :
    (registry.carryOut request).2.assembly = registry.assembly ∧
      Interception.Reads registry.world (registry.carryOut request).2.world := by
  cases request with
  | services => exact after_keeps present .services
  | interceptors => exact after_keeps present .interceptors
  | interceptorsFor service point => exact after_keeps present (.interceptorsFor service point)
  | sharesView service point =>
      obtain ⟨stays, reads⟩ := after_keeps present (.interceptorsFor service point)
      obtain ⟨staysAgain, readsAgain⟩ := after_keeps (stays ▸ present)
        (.interceptorsFor service point)
      exact ⟨staysAgain.trans stays, reads.trans readsAgain⟩
  | addService descriptor sections face =>
      have enrolled : (registry.enroll descriptor sections face).2.assembly.isSome = true := present
      exact after_keeps enrolled (.addService (registry.enroll descriptor sections face).1)
  | addInterceptor descriptor sections face =>
      have enrolled : (registry.enroll descriptor sections face).2.assembly.isSome = true := present
      exact after_keeps enrolled (.addInterceptor (registry.enroll descriptor sections face).1)
  | removeServices selects => exact after_keeps present (.removeServices selects)
  | removeInterceptors selects => exact after_keeps present (.removeInterceptors selects)

theorem runProgram_keeps (initializer : Record (Live Initializer)) (program : Program)
    (registry : Registry) (present : registry.assembly.isSome = true) :
    (runProgram initializer program registry).2.assembly = registry.assembly ∧
      World.Grows Call.IsErrand registry.world
        (runProgram initializer program registry).2.world := by
  induction program generalizing registry with
  | finish outcome => exact ⟨rfl, .refl _⟩
  | report event rest ih => exact ih (registry.report event) present
  | note label detail rest ih =>
      let world := registry.world.calledOn initializer.plugin.face.toPlugin
        (.note initializer.name label detail)
      obtain ⟨stays, errands⟩ := ih (registry.setWorld world) present
      exact ⟨stays, (World.Grows.called _ (.inr ⟨_, _, _, rfl⟩) _).trans errands⟩
  | ask request next ih =>
      obtain ⟨stays, reads⟩ := carryOut_keeps present request
      rw [runProgram]
      generalize registry.carryOut request = answered at stays reads ⊢
      obtain ⟨outcome, asked⟩ := answered
      have errands : World.Grows Call.IsErrand registry.world asked.world :=
        reads.mono fun _ contract => .inl contract
      cases outcome with
      | error panic => exact ⟨stays, errands⟩
      | ok answer =>
          obtain ⟨staysOn, more⟩ := ih answer asked (stays ▸ present)
          exact ⟨staysOn.trans stays, errands.trans more⟩

/-- Each operation meets what the one before it has left, and only the world changes in between. -/
inductive Performs : Registry → List Visit → Registry → Prop where
  | still {before : Registry} (world : World) : Performs before [] (before.setWorld world)
  | visit {before after : Registry} (world : World) {operation : Operation} {rest : List Visit}
      (performs : Performs ((before.setWorld world).perform operation).2 rest after) :
      Performs before (⟨before.setWorld world, operation⟩ :: rest) after

theorem Performs.meets {before after : Registry} {visits : List Visit} {world : World}
    (performs : Performs (before.setWorld world) visits after) : Performs before visits after := by
  cases performs with
  | still later => exact .still later
  | visit later rest => exact .visit later rest

/-- A program leaves what it has done, however it ends. -/
theorem runProgram_performs (initializer : Record (Live Initializer)) (program : Program)
    (registry : Registry) :
    Performs registry (programVisits initializer program registry)
      (runProgram initializer program registry).2 := by
  induction program generalizing registry with
  | finish outcome => exact .still registry.world
  | report event rest ih => exact (ih (registry.report event)).meets
  | note label detail rest ih => exact (ih (registry.setWorld _)).meets
  | ask request next ih =>
      have asked : ∀ {rest : List Visit} {after : Registry},
          Performs (registry.carryOut request).2 rest after →
            Performs registry (⟨registry, .ask request⟩ :: rest) after :=
        fun performs => .visit registry.world performs
      rw [programVisits, runProgram]
      generalize registry.carryOut request = answered at asked ⊢
      obtain ⟨outcome, between⟩ := answered
      cases outcome with
      | error panic => exact asked (.still between.world)
      | ok answer => exact asked (ih answer between)

theorem Performs.trans {earlier later : List Visit} (performs : Performs before earlier between)
    (more : Performs between later after) : Performs before (earlier ++ later) after := by
  induction performs with
  | still world => exact more.meets
  | visit world rest ih => exact .visit world (ih more)

/-- A visit lies between what leads to the registry that it meets and what follows from the one
that it leaves. -/
theorem Performs.divide {visits earlier later : List Visit} {visit : Visit}
    (performs : Performs before visits after) (split : visits = earlier ++ visit :: later) :
    Performs before earlier visit.registry ∧
      Performs (visit.registry.perform visit.operation).2 later after := by
  induction performs generalizing earlier with
  | still world => cases earlier <;> cases split
  | visit world rest ih =>
      cases earlier with
      | nil =>
          obtain ⟨rfl, rfl⟩ := List.cons.inj split
          exact ⟨.still world, rest⟩
      | cons first earlier =>
          obtain ⟨rfl, others⟩ := List.cons.inj split
          obtain ⟨leading, following⟩ := ih others
          exact ⟨.visit world leading, following⟩

theorem Activity.performs (activity : Activity) (registry : Registry) :
    Performs registry (activity.visits registry) (activity.after registry) := by
  cases activity with
  | operate operation => exact .visit registry.world (.still (registry.perform operation).2.world)
  | run initializer => exact (runProgram_performs initializer _ _).meets

theorem after_performs (registry : Registry) (activities : List Activity) :
    Performs registry (registry.visits activities) (registry.after activities) := by
  induction activities generalizing registry with
  | nil => exact .still registry.world
  | cons activity rest ih => exact (activity.performs registry).trans (ih _)

end Registry

namespace Host

/-- The run of an initializer and the registry that it meets. -/
structure Run where
  initializer : Record (Live Initializer)
  met : Registry

namespace Run

def name (run : Run) : String := run.initializer.name

def number (run : Run) : Nat := run.initializer.plugin.id

def point (run : Run) : InitPoint := run.initializer.registration.initPoint

def outcome (run : Run) : Except PluginError Unit := (run.met.runInitializer run.initializer).1

/-- The registry as the run leaves it. -/
def left (run : Run) : Registry := (run.met.runInitializer run.initializer).2

/-- What the initializer does to the registry, up to the point at which it ends or panics. -/
def visits (run : Run) : List Registry.Visit :=
  (Registry.Activity.run run.initializer).visits run.met

def failure? (run : Run) : Option InitializerFailure :=
  match run.outcome with
  | .ok () => none
  | .error error => some ⟨run.name, run.point, error⟩

/-- What the host reports of a run. -/
def verdict (run : Run) : Log.Event :=
  match run.outcome with
  | .ok () => executedEvent run.name run.point
  | .error error => failureEvent .initializer run.name "Error executing" error

variable {run : Run}

theorem left_spec (present : run.met.assembly.isSome = true) :
    run.left.assembly = run.met.assembly ∧
      Initializes run.met.world run.left.world [run.name] := by
  let face := run.initializer.plugin.face
  let world := run.met.world.calledOn face.toPlugin (.init run.name)
  obtain ⟨stays, errands⟩ := Registry.runProgram_keeps run.initializer
    (face.init (world.memory run.initializer.plugin.id)) (run.met.setWorld world) present
  exact ⟨stays, (Initializes.init _ _ _).trans (.of_errands errands)⟩

theorem performs (run : Run) : run.met.Performs run.visits run.left :=
  (Registry.Activity.run run.initializer).performs run.met

end Run

/-- The runs of initializers in turn. -/
def runsFrom : List (Record (Live Initializer)) → Registry → List Run
  | [], _ => []
  | initializer :: rest, registry =>
    let run : Run := ⟨initializer, registry⟩
    run :: runsFrom rest (run.left.report run.verdict)

/-- Each run meets what the one before it has left, and only the log is written in between. -/
inductive Leads : Registry → List Run → Registry → Prop where
  | still {before after : Registry} (logs : before.Logs after) : Leads before [] after
  | run {before after : Registry} {run : Run} {rest : List Run} (logs : before.Logs run.met)
      (leads : Leads run.left rest after) : Leads before (run :: rest) after

namespace Leads

variable {before between after : Registry} {runs more : List Run}

theorem logged (logs : before.Logs between) (leads : Leads between runs after) :
    Leads before runs after := by
  cases leads with
  | still more => exact .still (logs.trans more)
  | run more leads => exact .run (logs.trans more) leads

theorem trans (first : Leads before runs between) (second : Leads between more after) :
    Leads before (runs ++ more) after := by
  induction first with
  | still logs => exact second.logged logs
  | run logs _ ih => exact .run logs (ih second)

/-- Runs leave the assembly as it is, and each of them is shown in the journal. -/
theorem spec (leads : Leads before runs after) (present : before.assembly.isSome = true) :
    after.assembly = before.assembly ∧
      Initializes before.world after.world (runs.map Run.name) := by
  induction leads with
  | still logs => exact ⟨logs.assembly, .of_journal logs.journal⟩
  | run logs _ ih =>
      obtain ⟨stays, shown⟩ := Run.left_spec (logs.assembly ▸ present)
      have same := stays.trans logs.assembly
      obtain ⟨staysOn, later⟩ := ih (same ▸ present)
      exact ⟨staysOn.trans same, (Initializes.of_journal logs.journal).trans (shown.trans later)⟩

end Leads

theorem runsFrom_initializers (initializers : List (Record (Live Initializer)))
    (registry : Registry) :
    (runsFrom initializers registry).map Run.initializer = initializers := by
  induction initializers generalizing registry with
  | nil => rfl
  | cons initializer rest ih =>
      rw [runsFrom, List.map_cons, ih]

/-- A failed initializer is gathered, and those behind it run all the same. -/
theorem runAll_spec {point : InitPoint} {initializers : List (Record (Live Initializer))}
    (due : ∀ initializer ∈ initializers, initializer.registration.initPoint = point)
    (registry : Registry) :
    (runAll point initializers registry).1 =
        (runsFrom initializers registry).filterMap Run.failure? ∧
      Leads registry (runsFrom initializers registry) (runAll point initializers registry).2 := by
  induction initializers generalizing registry with
  | nil => exact ⟨rfl, .still (.refl registry)⟩
  | cons initializer rest ih =>
      obtain ⟨here, later⟩ := List.forall_mem_cons.mp due
      let run : Run := ⟨initializer, registry⟩
      have samePoint : run.point = point := here
      obtain ⟨failures, leads⟩ := ih later (run.left.report run.verdict)
      have follows := Leads.run (.refl registry) (leads.logged (.report run.left run.verdict))
      have ends : registry.runInitializer initializer = (run.outcome, run.left) := rfl
      change _ = (run :: runsFrom rest (run.left.report run.verdict)).filterMap Run.failure? ∧
        Leads registry (run :: runsFrom rest (run.left.report run.verdict)) _
      rw [runAll, ends]
      cases outcome : run.outcome with
      | ok done =>
          have told : run.verdict = executedEvent initializer.name point := by
            rw [Run.verdict, outcome, ← samePoint]
            rfl
          have fine : run.failure? = none := by rw [Run.failure?, outcome]
          rw [told] at failures follows ⊢
          rw [List.filterMap_cons_none fine]
          exact ⟨failures, follows⟩
      | error error =>
          have told : run.verdict =
              failureEvent .initializer initializer.name "Error executing" error := by
            rw [Run.verdict, outcome]
            rfl
          have failed : run.failure? = some ⟨initializer.name, point, error⟩ := by
            rw [Run.failure?, outcome, ← samePoint]
            rfl
          rw [told] at failures follows ⊢
          rw [List.filterMap_cons_some failed, ← failures]
          exact ⟨rfl, follows⟩

end Host

end PluginHost
