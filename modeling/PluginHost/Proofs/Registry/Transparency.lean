import PluginHost.Proofs.Registry.Visits

/-
This file follows an assembled registry through the calls of the host and the runs of its
initializers.
-/

namespace PluginHost.Registry

/-- The visits that the program of an initializer pays. -/
def programVisits (initializer : Record (Live Initializer)) : Program → Registry → List Visit
  | .finish _, _ => []
  | .report event rest, registry => programVisits initializer rest (registry.report event)
  | .note label detail rest, registry =>
    programVisits initializer rest
      (registry.setWorld (registry.world.calledOn initializer.plugin.face.toPlugin
        (.note initializer.name label detail)))
  | .ask request next, registry =>
    ⟨registry, .ask request⟩ ::
      match registry.carryOut request with
      | (.error _, _) => []
      | (.ok answer, registry) => programVisits initializer (next answer) registry

/-- The host performs an operation itself or runs an initializer. -/
inductive Activity where
  | operate (operation : Operation)
  | run (initializer : Record (Live Initializer))

namespace Activity

def after (registry : Registry) : Activity → Registry
  | operate operation => (registry.perform operation).2
  | run initializer => (registry.runInitializer initializer).2

def visits (registry : Registry) : Activity → List Visit
  | operate operation => [⟨registry, operation⟩]
  | run initializer =>
    let face := initializer.plugin.face
    let world := registry.world.calledOn face.toPlugin (.init initializer.name)
    programVisits initializer (face.init (world.memory initializer.plugin.id))
      (registry.setWorld world)

end Activity

def after (registry : Registry) (activities : List Activity) : Registry :=
  activities.foldl Activity.after registry

def visits (registry : Registry) : List Activity → List Visit
  | [] => []
  | activity :: rest => activity.visits registry ++ (activity.after registry).visits rest

variable {registry : Registry} {visited : List Visit}

/-- Each of the visits meets a registry whose views are right. -/
def Followed (visited : List Visit) : Prop :=
  ∀ visit ∈ visited, ∃ recent, Tracks visit.registry recent

theorem Followed.append {first second : List Visit} (early : Followed first)
    (late : Followed second) : Followed (first ++ second) := by
  intro visit member
  rcases List.mem_append.mp member with before | after
  · exact early visit before
  · exact late visit after

theorem visit_tracked {operation : Operation} (tracks : Tracks registry (recentKeys visited))
    (sound : Visit.Sound ⟨registry, operation⟩) :
    Tracks (registry.perform operation).2
        (recentKeys (visited ++ [⟨registry, operation⟩])) ∧
      Followed [⟨registry, operation⟩] := by
  refine ⟨recentKeys_concat visited _ ▸ tracks.perform sound, ?_⟩
  intro visit member
  rw [List.mem_singleton.mp member]
  exact ⟨_, tracks⟩

/-- The run of an initializer keeps what each of its visits keeps. -/
theorem runProgram_tracked {initializer : Record (Live Initializer)} {program : Program}
    (tracks : Tracks registry (recentKeys visited))
    (sound : ∀ visit ∈ programVisits initializer program registry, visit.Sound) :
    Tracks (runProgram initializer program registry).2
        (recentKeys (visited ++ programVisits initializer program registry)) ∧
      Followed (programVisits initializer program registry) := by
  induction program generalizing registry visited with
  | finish outcome =>
      simp only [runProgram, programVisits, List.append_nil]
      exact ⟨tracks, fun _ absurd => by cases absurd⟩
  | report event rest ih => exact ih (tracks.setWorld _) sound
  | note label detail rest ih => exact ih (tracks.setWorld _) sound
  | ask request next ih =>
      rw [programVisits] at sound ⊢
      rw [runProgram]
      obtain ⟨tracked, followed⟩ := visit_tracked tracks (sound _ List.mem_cons_self)
      change Tracks (registry.carryOut request).2 _ at tracked
      generalize registry.carryOut request = answered at sound tracked ⊢
      obtain ⟨outcome, registry⟩ := answered
      cases outcome with
      | error panic => exact ⟨tracked, followed⟩
      | ok answer =>
          obtain ⟨ended, more⟩ := ih answer tracked fun visit member =>
            sound visit (List.mem_cons_of_mem _ member)
          rw [List.append_assoc] at ended
          exact ⟨ended, followed.append more⟩

theorem activity_tracked {activity : Activity} (tracks : Tracks registry (recentKeys visited))
    (sound : ∀ visit ∈ activity.visits registry, visit.Sound) :
    Tracks (activity.after registry) (recentKeys (visited ++ activity.visits registry)) ∧
      Followed (activity.visits registry) := by
  cases activity with
  | operate operation => exact visit_tracked tracks (sound _ List.mem_cons_self)
  | run initializer => exact runProgram_tracked (tracks.setWorld _) sound

theorem after_tracked {activities : List Activity}
    (tracks : Tracks registry (recentKeys visited))
    (sound : ∀ visit ∈ registry.visits activities, visit.Sound) :
    Tracks (registry.after activities) (recentKeys (visited ++ registry.visits activities)) ∧
      Followed (registry.visits activities) := by
  induction activities generalizing registry visited with
  | nil =>
      simp only [visits, List.append_nil]
      exact ⟨tracks, fun _ absurd => by cases absurd⟩
  | cons activity rest ih =>
      rw [visits] at sound ⊢
      obtain ⟨tracked, followed⟩ := activity_tracked tracks fun visit member =>
        sound visit (List.mem_append_left _ member)
      obtain ⟨ended, more⟩ := ih tracked fun visit member =>
        sound visit (List.mem_append_right _ member)
      rw [List.append_assoc] at ended
      exact ⟨ended, followed.append more⟩

/-- The cache does not show. In the course of any calls, each lookup finds what is computed anew
from the current lists, and as many views are kept as there are keys asked for since the last
change. -/
theorem interceptorsFor_transparent (discovery : Discovery) (sections : Sections) (world : World)
    (activities : List Activity)
    (sound : ∀ visit ∈ (create discovery sections world).assembled.visits activities,
      visit.Sound) :
    let start := (create discovery sections world).assembled
    (∀ visit ∈ start.visits activities, ∀ service point,
      (visit.registry.interceptorsFor service point).1 =
        Interception.view visit.registry.interceptors visit.registry.services
          (service, point)) ∧
      (start.after activities).cachedViews =
        (recentKeys (start.visits activities)).dedup.length := by
  intro start
  have started : Tracks start (recentKeys []) := .start discovery sections world
  obtain ⟨tracked, followed⟩ := after_tracked started sound
  rw [List.nil_append] at tracked
  constructor
  · intro visit member service point
    obtain ⟨recent, tracks⟩ := followed visit member
    exact (tracks.lookUp service point).1
  · have same : (start.after activities).views.keys.Perm
        (recentKeys (start.visits activities)).dedup :=
      (List.perm_ext_iff_of_nodup tracked.once (List.nodup_dedup _)).mpr fun key =>
        (tracked.asked key).trans List.mem_dedup.symm
    rw [cachedViews, ViewCache.size_eq]
    exact same.length_eq

/-- A program that asks for a list, removes what has the name, and asks again. -/
def cleaning (name : String) : Program :=
  .ask (.interceptorsFor (some "api") .requestAfterAuth) fun _ =>
  .ask (.removeInterceptors fun card => .ok (card.name == name)) fun _ =>
  .ask (.interceptorsFor (some "api") .requestAfterAuth) fun _ =>
  .finish (.done ())

def cleaner (name : String) : Record (Live Initializer) where
  registration := { name := "cleaner" }
  implementation := "cleaner"
  config := none
  enabled := true
  plugin := ⟨0, { init := fun _ => cleaning name }⟩

/-- A service is asked for before it is added, and an interceptor is removed after a selection has
chosen nothing. -/
def errands : List Activity :=
  let asked := Activity.operate (.ask (.interceptorsFor (some "api") .requestAfterAuth))
  [.operate (.addInterceptor (plainRecord "tag")),
    .operate (.addInterceptor (plainRecord "mute" (.error .untold))),
    asked, .operate (.addService (plainRecord "api")), .run (cleaner "absent"), asked,
    .run (cleaner "tag"), .operate (.ask (.interceptorsFor none .response))]

/-- The list of an unknown service goes when the service is added, and a removal of nothing leaves
the list that is kept. -/
theorem interceptorsFor_transparent_of_errands :
    let start := (create (fun _ => []) [] {}).assembled
    let found := fun visit : Visit =>
      (visit.registry.interceptorsFor (some "api") .requestAfterAuth).1
    (∀ visit ∈ start.visits errands, visit.Sound) ∧
      (start.visits errands).map (fun visit => (found visit).map Record.name) =
        [[], [], [], [], ["tag"], ["tag"], ["tag"], ["tag"], ["tag"], ["tag"], [], []] ∧
      (∀ visit ∈ start.visits errands, found visit =
        Interception.view visit.registry.interceptors visit.registry.services
          (some "api", .requestAfterAuth)) ∧
      (start.after errands).cachedViews = 2 := by
  intro start found
  have sound : ∀ visit ∈ start.visits errands, visit.Sound := by decide +kernel
  obtain ⟨transparent, counted⟩ :=
    interceptorsFor_transparent (fun _ => []) [] {} errands sound
  refine ⟨sound, by decide +kernel, fun visit member => transparent visit member _ _, ?_⟩
  rw [counted]
  decide +kernel

/-- A selection that panics after it has removed something leaves a list that is out of date. -/
example :
    let asked := (create (fun _ => []) [] {}).assembled.after
      [.operate (.addInterceptor (plainRecord "tag")), .operate (.addInterceptor (plainRecord "log")),
        .operate (.ask (.interceptorsFor none .requestAfterAuth))]
    let halfway := (asked.perform (.ask (.removeInterceptors fun card =>
      if card.name == "tag" then .ok true else .error .untold))).2
    (halfway.interceptorsFor none .requestAfterAuth).1.map Record.name = ["tag", "log"] ∧
      halfway.interceptors.map Record.name = ["log"] := by
  decide +kernel

end PluginHost.Registry
