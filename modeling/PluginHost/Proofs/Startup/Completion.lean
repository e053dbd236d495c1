import PluginHost.Proofs.Startup.Lifecycle

/-
This file compares the counts that are reported at the end of a startup with those that the host
answers afterwards. The report leaves out the initializers that failed after startup.
-/

namespace PluginHost

namespace Stats

/-- The text ends with the number of failed initializers. -/
theorem exists_text (stats : Stats) : ∃ front : String, ∀ count : Nat,
    { stats with initializerFailures := count }.text =
      front ++ (count.repr ++ " initializer failures") := by
  refine ⟨"Plugins: " ++ String.intercalate ", " stats.inPlace ++ "; " ++
    (s!"{stats.excludedProviders} providers excluded" ++ ", " ++
      s!"{stats.injectionFailures} injection failures" ++ ", "), fun count => ?_⟩
  have failed : String.intercalate ", " { stats with initializerFailures := count }.failed =
      s!"{stats.excludedProviders} providers excluded" ++ ", " ++
        s!"{stats.injectionFailures} injection failures" ++ ", " ++
        (count.repr ++ " initializer failures") := rfl
  rw [text, failed]
  simp only [String.append_assoc]
  rfl

/-- The number of failed initializers can be told from the text. -/
theorem text_inj (stats : Stats) (first second : Nat) :
    { stats with initializerFailures := first }.text =
      { stats with initializerFailures := second }.text ↔ first = second := by
  obtain ⟨front, ends⟩ := stats.exists_text
  rw [ends, ends, String.append_right_inj, String.append_left_inj]
  constructor
  · intro same
    -- A number can be read back from its digits.
    have digits : Nat.toDigits 10 first = Nat.toDigits 10 second := by
      rw [← Nat.toList_repr, same, Nat.toList_repr]
    rw [← Nat.ofDigitChars_ten_toDigits (n := first), digits, Nat.ofDigitChars_ten_toDigits]
  · exact congrArg Nat.repr

end Stats

namespace Host

variable {host : Host}

/-- Once everything is assembled, counting changes nothing. -/
theorem stats_snd (present : host.registry.assembly.isSome = true) : host.stats.2 = host := by
  have stays : host.registry.assembled = host.registry := Registry.assembled_eq present
  change { host with registry := host.registry.assembled } = host
  rw [stays]

/-- The late initializers run, then the counts are reported, and then the failures are kept. -/
theorem conclude_spec (present : host.registry.assembly.isSome = true) :
    ∃ left : Registry, left.assembly = host.registry.assembly ∧
      let counted : Host := { host with registry := left }
      host.conclude.2 =
        { counted.report (completeEvent counted.stats.1) with
          afterStartup := some host.conclude.1 } := by
  obtain ⟨-, leads⟩ := runInitializers_spec present .afterStartup
  let late := runInitializers host.registry .afterStartup
  have stays : late.2.assembly = host.registry.assembly := (leads.spec present).1
  refine ⟨late.2, stays, ?_⟩
  have counted : { host with registry := late.2 }.stats.2 = { host with registry := late.2 } :=
    stats_snd (stays ▸ present)
  change ({ { host with registry := late.2 }.stats.2.report
    (completeEvent { host with registry := late.2 }.stats.1) with
      afterStartup := some host.conclude.1 } : Host) = _
  rw [counted]

/-- The counts depend on the assembly, on the two lists that can change, and on the failures. -/
theorem stats_fst_concluded {assembly : Assembly} (held : host.registry.assembly = some assembly)
    (unfinished : host.afterStartup = none) (event : Log.Event)
    (failures : List InitializerFailure) :
    let finished : Host := { host.report event with afterStartup := some failures }
    finished.stats.1.initializerFailures =
        (host.beforeStartup.getD []).length + failures.length ∧
      host.stats.1 = { finished.stats.1 with
        initializerFailures := (host.beforeStartup.getD []).length } := by
  intro finished
  have again : finished.registry.assembly = some assembly := held
  constructor
  · rfl
  · simp only [stats, Registry.assemble, held, again, failureCount, unfinished]
    rfl

section
variable {start : Host} (new : New start)
include new

/-- Only finishing passes the second point. -/
theorem New.unfinished {calls : List PublicCall} (first : ∀ call ∈ calls, call ≠ .finishStartup) :
    (start.called calls).afterStartup = none := by
  have waits : (start.called calls).hasPassed .afterStartup = false := by
    rw [new.passed, List.any_eq_false]
    intro call member passes
    cases call with
    | finishStartup => exact first _ member rfl
    | _ => cases passes
  exact Option.not_isSome_iff_eq_none.mp (Bool.eq_false_iff.mp waits)

theorem New.concludes {calls : List PublicCall} (first : ∀ call ∈ calls, call ≠ .finishStartup) :
    (start.called calls).finishStartup = (start.called calls).boot.2.conclude := by
  have others := ((new.reaches calls).booting new).others .afterStartup (by decide)
  have unfinished : (start.called calls).boot.2.afterStartup = none :=
    others.trans (new.unfinished first)
  rw [finishStartup_eq, concluded, unfinished]

end

/-- When a host finishes its startup for the first time, the counts that it reports are the ones
that it answers right afterwards, but for the initializers that failed after startup. -/
theorem startup_reports_early (discovery : Discovery) (settings : Settings) (world : World)
    (calls : List PublicCall) (first : ∀ call ∈ calls, call ≠ .finishStartup) :
    let host := (create discovery settings world).called calls
    let finished := host.finishStartup.2
    let final := finished.stats.1
    let reported := { final with initializerFailures := host.boot.1.length }
    (∃ earlier, finished.registry.world.log = earlier ++ [.event (completeEvent reported)]) ∧
      final.initializerFailures = host.boot.1.length + host.finishStartup.1.length ∧
      (reported.text = final.text ↔ host.finishStartup.1 = []) := by
  intro host finished final reported
  have new : New (create discovery settings world) := create_new discovery settings world
  have booted := (new.reaches calls).booting new
  obtain ⟨left, stays, concludes⟩ := conclude_spec booted.present
  obtain ⟨assembly, held⟩ := Option.isSome_iff_exists.mp (stays ▸ booted.present)
  let counted : Host := { host.boot.2 with registry := left }
  have same : host.finishStartup = host.boot.2.conclude := new.concludes first
  have ended : finished = { counted.report (completeEvent counted.stats.1) with
      afterStartup := some host.finishStartup.1 } := by
    rw [same]
    exact (congrArg Prod.snd same).trans concludes
  have unfinished : counted.afterStartup = none :=
    (booted.others .afterStartup (by decide)).trans (new.unfinished first)
  have early : counted.beforeStartup.getD [] = host.boot.1 := by
    have kept : counted.beforeStartup = some host.boot.1 := booted.kept
    rw [kept]
    rfl
  have heldStill : counted.registry.assembly = some assembly := held
  obtain ⟨total, shown⟩ := stats_fst_concluded heldStill unfinished
    (completeEvent counted.stats.1) host.finishStartup.1
  rw [← ended, early] at total shown
  have written : finished.registry.world.log =
      left.world.log ++ [.event (completeEvent counted.stats.1)] := by
    rw [ended]
    rfl
  refine ⟨⟨left.world.log, written.trans (by rw [shown])⟩, total, ?_⟩
  · rw [Stats.text_inj, total]
    constructor
    · intro equal
      exact List.eq_nil_of_length_eq_zero (by omega)
    · intro nothing
      rw [nothing, List.length_nil, Nat.add_zero]

/-- An initializer that gives up after startup. -/
def stumbling : Discovery
  | .initializer => [{
      descriptor := {
        category := .initializer
        className := "Stumbler"
        registration := { name := "stumbler" } }
      constructor := some (.done (.initializer {
        init := fun _ => .finish (.failed (.custom "stop")) })) }]
  | _ => []

/-- The failure is counted, but the report does not know of it yet. -/
theorem startup_reports_early_of_stumbling :
    let calls : List PublicCall := [.registry .services, .boot, .stats]
    let host := (create stumbling {} {}).called calls
    let final := host.finishStartup.2.stats.1
    (∀ call ∈ calls, call ≠ .finishStartup) ∧ host.boot.1 = [] ∧
      host.finishStartup.1.map InitializerFailure.initializer = ["stumbler"] ∧
      (∃ earlier, host.finishStartup.2.registry.world.log =
        earlier ++ [.event (completeEvent { final with initializerFailures := 0 })]) ∧
      final.initializerFailures = 1 := by
  intro calls host final
  have first : ∀ call ∈ calls, call ≠ .finishStartup := by simp [calls]
  have early : host.boot.1 = [] := List.map_eq_nil_iff.mp
    (by decide +kernel : host.boot.1.map InitializerFailure.initializer = [])
  have late : host.finishStartup.1.map InitializerFailure.initializer = ["stumbler"] := by
    decide +kernel
  have single : host.finishStartup.1.length = 1 := by
    rw [← List.length_map InitializerFailure.initializer, late]
    rfl
  obtain ⟨reported, total, -⟩ := startup_reports_early stumbling {} {} calls first
  change ∃ earlier, host.finishStartup.2.registry.world.log = earlier ++
    [.event (completeEvent { final with initializerFailures := host.boot.1.length })] at reported
  rw [early] at reported
  exact ⟨first, early, late, reported, by rw [total, early, single]; rfl⟩

/-- The text that is reported is not the one of the final counts. -/
theorem startup_misreports :
    let finished := (create stumbling {} {}).finishStartup.2
    let reported : Stats := { providers := 2, initializers := 1 }
    finished.registry.world.log.getLast? = some (.event (completeEvent reported)) ∧
      finished.stats.1 = { providers := 2, initializers := 1, initializerFailures := 1 } ∧
      reported.text ≠ finished.stats.1.text := by
  decide +kernel

end Host

end PluginHost
