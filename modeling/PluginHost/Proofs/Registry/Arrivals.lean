import PluginHost.Proofs.Factory.Building
import PluginHost.Proofs.Factory.Priority
import PluginHost.Proofs.Registry.Transparency

/-
This file compares the two lists that change with a log of arrivals. Records enter the log at its
end and are struck out of it, and each list is its log in ascending priority.
-/

namespace PluginHost

namespace Selection

variable {ι : Type}

def picks (selects : Selection) (record : Record ι) : Bool :=
  match selects record.card with
  | .ok chosen => chosen
  | .error _ => false

def panic? (selects : Selection) (record : Record ι) : Option Panic :=
  match selects record.card with
  | .ok _ => none
  | .error panic => some panic

end Selection

namespace Registry

variable {ι : Type}

/-- The sort is stable, so what arrived first stays first among equal priorities. -/
def byPriority (records : List (Record ι)) : List (Record ι) :=
  records.mergeSort fun first second => decide (first.priority ≤ second.priority)

/-- Whether the first of two numbered arrivals stands in front of the second one. -/
def isAhead (first second : Record ι × Nat) : Bool :=
  first.1.priority < second.1.priority ||
    first.1.priority == second.1.priority && first.2 < second.2

/-- The selection has picked the arrival, and has panicked on none that stands in front of it. -/
def isStruck (selects : Selection) (numbered : List (Record ι × Nat)) (entry : Record ι × Nat) :
    Bool :=
  selects.picks entry.1 && numbered.all fun other =>
    (selects.panic? other.1).isNone || isAhead entry other

/-- Strikes out what a removal has deleted by the time it ends or panics. -/
def strike (selects : Selection) (log : List (Record ι)) : List (Record ι) :=
  (log.zipIdx.filter fun entry => !isStruck selects log.zipIdx entry).map Prod.fst

theorem sortedBy_byPriority (log : List (Record ι)) :
    SortedBy Record.priority log (byPriority log) := sortedBy_mergeSort _ log

theorem byPriority_unique {log sorted : List (Record ι)}
    (order : SortedBy Record.priority log sorted) : sorted = byPriority log :=
  order.unique (sortedBy_byPriority log)

/-- A selection that panics on nothing strikes out what it picks. -/
theorem strike_of_quiet {selects : Selection} {log : List (Record ι)}
    (quiet : ∀ record ∈ log, selects.panic? record = none) :
    strike selects log = log.filter fun record => !selects.picks record := by
  have silent : ∀ entry : Record ι × Nat, isStruck selects log.zipIdx entry =
      selects.picks entry.1 := by
    intro entry
    have all : (log.zipIdx.all fun other =>
        (selects.panic? other.1).isNone || isAhead entry other) = true := by
      rw [List.all_eq_true]
      intro other member
      rw [quiet other.1 (List.fst_mem_of_mem_zipIdx member)]
      rfl
    rw [isStruck, all, Bool.and_true]
  simp only [strike, silent]
  conv_rhs => rw [← List.zipIdx_map_fst 0 log, List.filter_map]
  rfl

theorem isAhead_asymm {first second : Record ι × Nat} (ahead : isAhead first second = true) :
    isAhead second first = false := by
  simp only [isAhead, Bool.or_eq_true, Bool.and_eq_true, decide_eq_true_eq, beq_iff_eq] at ahead
  simp only [isAhead, Bool.or_eq_false_iff, Bool.and_eq_false_iff, decide_eq_false_iff_not]
  rcases ahead with less | ⟨equal, earlier⟩
  · refine ⟨fun more => Int32.lt_irrefl (Int32.lt_trans less more), .inl ?_⟩
    rw [beq_eq_false_iff_ne]
    intro equal
    rw [equal] at less
    exact Int32.lt_irrefl less
  · rw [equal]
    exact ⟨Int32.lt_irrefl, .inr (by omega)⟩

/-- A removal goes through the arrivals from the front, and strikes out what it says it does. -/
theorem retain_numbered {selects : Selection} {numbered : List (Record ι × Nat)}
    (order : numbered.Pairwise fun first second => isAhead first second = true) :
    (retain selects (numbered.map Prod.fst)).1 =
      (numbered.filter fun entry => !isStruck selects numbered entry).map Prod.fst := by
  induction numbered with
  | nil => rfl
  | cons first rest ih =>
      obtain ⟨ahead, restOrder⟩ := List.pairwise_cons.mp order
      rw [List.map_cons, retain]
      cases asked : selects first.1.card with
      | error panic =>
          have panics : selects.panic? first.1 = some panic := by simp [Selection.panic?, asked]
          have nothing : ∀ entry ∈ first :: rest, isStruck selects (first :: rest) entry = false := by
            refine List.forall_mem_cons.mpr ⟨by simp [isStruck, Selection.picks, asked], ?_⟩
            intro entry behind
            simp [isStruck, panics, isAhead_asymm (ahead entry behind)]
          rw [List.filter_eq_self.mpr fun entry member => by rw [nothing entry member]; rfl]
          rfl
      | ok chosen =>
          have quiet : selects.panic? first.1 = none := by simp [Selection.panic?, asked]
          have later : ∀ entry ∈ rest, (!isStruck selects (first :: rest) entry) =
              !isStruck selects rest entry := by
            intro entry behind
            simp [isStruck, quiet]
          have self : isStruck selects (first :: rest) first = chosen := by
            have clear : (rest.all fun other =>
                (selects.panic? other.1).isNone || isAhead first other) = true := by
              rw [List.all_eq_true]
              intro other behind
              rw [ahead other behind, Bool.or_true]
            rw [isStruck, List.all_cons, quiet, clear]
            simp [Selection.picks, asked]
          dsimp only
          rw [List.filter_cons, self, List.filter_congr later, ih restOrder]
          cases chosen <;> rfl

theorem retain_panic (selects : Selection) (records : List (Record ι)) :
    (retain selects records).2 = records.findSome? selects.panic? := by
  induction records with
  | nil => rfl
  | cons record rest ih =>
      rw [retain, List.findSome?_cons]
      cases asked : selects record.card with
      | error panic => simp [Selection.panic?, asked]
      | ok chosen => simpa [Selection.panic?, asked] using ih

/-- What a removal leaves of a list is what it leaves of the log. -/
theorem retain_byPriority (selects : Selection) (log : List (Record ι)) :
    (retain selects (byPriority log)).1 = byPriority (strike selects log) := by
  let numbered := log.zipIdx.mergeSort fun first second =>
    decide (first.1.priority ≤ second.1.priority)
  have order : SortedBy (fun entry : Record ι × Nat => entry.1.priority) log.zipIdx numbered :=
    sortedBy_mergeSort _ _
  have records : numbered.map Prod.fst = byPriority log := by
    have mapped := order.map Prod.fst
    rw [List.zipIdx_map_fst] at mapped
    exact byPriority_unique mapped
  have counted : log.zipIdx.Pairwise fun first second => first.2 < second.2 := by
    rw [← List.pairwise_map (f := Prod.snd), List.zipIdx_map_snd]
    exact List.pairwise_lt_range'
  have ahead : numbered.Pairwise fun first second => isAhead first second = true := by
    rw [List.pairwise_iff_forall_sublist]
    intro first second within
    have below := List.pairwise_iff_forall_sublist.mp order.ascending within
    rw [isAhead, Bool.or_eq_true, Bool.and_eq_true, decide_eq_true_eq, decide_eq_true_eq,
      beq_iff_eq]
    by_cases equal : first.1.priority = second.1.priority
    · -- Of two arrivals with one priority, the stable sort leaves the earlier one in front.
      have kept := within.filter fun entry => entry.1.priority == second.1.priority
      rw [order.stable] at kept
      simp only [List.filter_cons, equal, beq_self_eq_true, if_true, List.filter_nil] at kept
      exact .inr ⟨equal, List.pairwise_iff_forall_sublist.mp counted
        (kept.trans List.filter_sublist)⟩
    · exact .inl (Int32.lt_of_le_of_ne below equal)
  have struck : ∀ entry, isStruck selects numbered entry = isStruck selects log.zipIdx entry := by
    intro entry
    rw [isStruck, isStruck, order.perm.all_eq]
  rw [← records, retain_numbered ahead]
  apply byPriority_unique
  simp only [struck]
  exact (order.filter fun entry => !isStruck selects log.zipIdx entry).map Prod.fst

theorem byPriority_concat (log : List (Record ι)) (record : Record ι) :
    record.insertByPriority (byPriority log) = byPriority (log ++ [record]) :=
  byPriority_unique ((sortedBy_byPriority log).insert record)

/-- How a removal ends: with the number of arrivals that are gone, unless the selection panics. -/
def removal (selects : Selection) (log : List (Record ι)) : Except Panic Nat :=
  match (byPriority log).findSome? selects.panic? with
  | some panic => .error panic
  | none => .ok (log.length - (strike selects log).length)

theorem removal_of_quiet {selects : Selection} {log : List (Record ι)}
    (quiet : ∀ record ∈ log, selects.panic? record = none) :
    removal selects log = .ok (log.countP selects.picks) := by
  have never : (byPriority log).findSome? selects.panic? = none := by
    rw [List.findSome?_eq_none_iff]
    exact fun record member => quiet record ((sortedBy_byPriority log).perm.mem_iff.mp member)
  have parts : log.length =
      log.countP selects.picks + log.countP fun record => !selects.picks record := by
    simpa using List.length_eq_countP_add_countP selects.picks (l := log)
  rw [removal, never, strike_of_quiet quiet, ← List.countP_eq_length_filter, parts]
  exact congrArg Except.ok (Nat.add_sub_cancel ..)

/-- The arrivals of interceptors and of services that have not been struck out. -/
structure Arrivals where
  interceptors : List ExchangerRecord
  services : List ExchangerRecord

namespace Arrivals

/-- What an operation writes into the log. -/
def note (log : Arrivals) (visit : Visit) : Arrivals :=
  match visit.operation with
  | .addService record => { log with services := log.services ++ [record] }
  | .addInterceptor record => { log with interceptors := log.interceptors ++ [record] }
  | .ask (.addService descriptor sections face) =>
    { log with services := log.services ++ [(visit.registry.enroll descriptor sections face).1] }
  | .ask (.addInterceptor descriptor sections face) =>
    { log with
      interceptors := log.interceptors ++ [(visit.registry.enroll descriptor sections face).1] }
  | .ask (.removeServices selects) => { log with services := strike selects log.services }
  | .ask (.removeInterceptors selects) =>
    { log with interceptors := strike selects log.interceptors }
  | .ask _ => log

/-- What the log says of a registry that is assembled. -/
structure Describes (log : Arrivals) (registry : Registry) : Prop where
  present : registry.assembly.isSome = true
  interceptors : registry.interceptors = byPriority log.interceptors
  services : registry.services = byPriority log.services

namespace Describes

variable {log : Arrivals} {registry : Registry}

theorem setWorld (describes : Describes log registry) (world : World) :
    Describes log (registry.setWorld world) :=
  ⟨describes.present, describes.interceptors, describes.services⟩

theorem lookUp (describes : Describes log registry) (service : Option String)
    (point : InterceptPoint) : Describes log (registry.lookUp service point).2 := by
  obtain ⟨-, world, -, after⟩ := lookUp_spec describes.present service point
  rw [after]
  exact ⟨describes.present, describes.interceptors, describes.services⟩

theorem addService (describes : Describes log registry) (record : ExchangerRecord) :
    Describes { log with services := log.services ++ [record] } (registry.addService record) := by
  unfold Registry.addService
  rw [assembled_eq describes.present]
  refine ⟨describes.present, describes.interceptors, ?_⟩
  rw [← byPriority_concat, ← describes.services]
  rfl

theorem addInterceptor (describes : Describes log registry) (record : ExchangerRecord) :
    Describes { log with interceptors := log.interceptors ++ [record] }
      (registry.addInterceptor record) := by
  unfold Registry.addInterceptor
  rw [assembled_eq describes.present]
  refine ⟨describes.present, ?_, describes.services⟩
  rw [← byPriority_concat, ← describes.interceptors]
  rfl

theorem removed_fst (selects : Selection) (log : List ExchangerRecord)
    (views : ViewCache ExchangerRecord) :
    (removed (byPriority log) (retain selects (byPriority log)).1
      (retain selects (byPriority log)).2 views).1 = removal selects log := by
  rw [removal, retain_panic, retain_byPriority]
  cases (byPriority log).findSome? selects.panic? with
  | some panic => rfl
  | none =>
      have whole := (sortedBy_byPriority log).perm.length_eq
      have left := (sortedBy_byPriority (strike selects log)).perm.length_eq
      rw [removed, whole, left]

theorem removeServices (describes : Describes log registry) (selects : Selection) :
    (registry.removeServices selects).1 = removal selects log.services ∧
      Describes { log with services := strike selects log.services }
        (registry.removeServices selects).2 := by
  unfold Registry.removeServices
  rw [assembled_eq describes.present]
  dsimp only
  rw [describes.services, removed_fst]
  exact ⟨rfl, describes.present, describes.interceptors, retain_byPriority selects log.services⟩

theorem removeInterceptors (describes : Describes log registry) (selects : Selection) :
    (registry.removeInterceptors selects).1 = removal selects log.interceptors ∧
      Describes { log with interceptors := strike selects log.interceptors }
        (registry.removeInterceptors selects).2 := by
  unfold Registry.removeInterceptors
  rw [assembled_eq describes.present]
  dsimp only
  rw [describes.interceptors, removed_fst]
  exact ⟨rfl, describes.present, retain_byPriority selects log.interceptors, describes.services⟩

/-- After an operation the log with its note describes what the registry has become. -/
theorem perform (describes : Describes log registry) (operation : Operation) :
    Describes (log.note ⟨registry, operation⟩) (registry.perform operation).2 := by
  have asked : Describes log registry.assembled := by
    rw [assembled_eq describes.present]
    exact describes
  cases operation with
  | addService record => exact describes.addService record
  | addInterceptor record => exact describes.addInterceptor record
  | ask request =>
      cases request with
      | services => exact asked
      | interceptors => exact asked
      | interceptorsFor service point => exact describes.lookUp service point
      | sharesView service point => exact (describes.lookUp service point).lookUp service point
      | addService descriptor sections face =>
          exact (describes.setWorld (registry.world.enroll descriptor.name face.toPlugin face).2
            ).addService _
      | addInterceptor descriptor sections face =>
          exact (describes.setWorld (registry.world.enroll descriptor.name face.toPlugin face).2
            ).addInterceptor _
      | removeServices selects => exact (describes.removeServices selects).2
      | removeInterceptors selects => exact (describes.removeInterceptors selects).2

end Describes

end Arrivals

variable {registry : Registry} {log : Arrivals} {visited : List Visit}

/-- Each visit meets a registry that is described by the notes of the visits before it. -/
def Chronicled (log : Arrivals) : List Visit → Prop
  | [] => True
  | visit :: rest => log.Describes visit.registry ∧ Chronicled (log.note visit) rest

theorem Chronicled.append {first second : List Visit} (early : Chronicled log first)
    (late : Chronicled (first.foldl Arrivals.note log) second) :
    Chronicled log (first ++ second) := by
  induction first generalizing log with
  | nil => exact late
  | cons visit rest ih => exact ⟨early.1, ih early.2 late⟩

theorem Chronicled.describes {before after : List Visit} {visit : Visit}
    (chronicled : Chronicled log (before ++ visit :: after)) :
    (before.foldl Arrivals.note log).Describes visit.registry := by
  induction before generalizing log with
  | nil => exact chronicled.1
  | cons first rest ih => exact ih chronicled.2

theorem runProgram_chronicled {initializer : Record (Live Initializer)} {program : Program}
    (describes : log.Describes registry) :
    Chronicled log (programVisits initializer program registry) ∧
      ((programVisits initializer program registry).foldl Arrivals.note log).Describes
        (runProgram initializer program registry).2 := by
  induction program generalizing registry log with
  | finish outcome => exact ⟨trivial, describes⟩
  | report event rest ih => exact ih (describes.setWorld _)
  | note label detail rest ih => exact ih (describes.setWorld _)
  | ask request next ih =>
      rw [programVisits, runProgram]
      have noted := describes.perform (.ask request)
      change Arrivals.Describes _ (registry.carryOut request).2 at noted
      generalize registry.carryOut request = answered at noted ⊢
      obtain ⟨outcome, registry⟩ := answered
      cases outcome with
      | error panic => exact ⟨⟨describes, trivial⟩, noted⟩
      | ok answer =>
          obtain ⟨more, ended⟩ := ih answer noted
          exact ⟨⟨describes, more⟩, ended⟩

theorem activity_chronicled (activity : Activity) (describes : log.Describes registry) :
    Chronicled log (activity.visits registry) ∧
      ((activity.visits registry).foldl Arrivals.note log).Describes
        (activity.after registry) := by
  cases activity with
  | operate operation => exact ⟨⟨describes, trivial⟩, describes.perform operation⟩
  | run initializer => exact runProgram_chronicled (describes.setWorld _)

theorem after_chronicled (activities : List Activity) (describes : log.Describes registry) :
    Chronicled log (registry.visits activities) ∧
      ((registry.visits activities).foldl Arrivals.note log).Describes
        (registry.after activities) := by
  induction activities generalizing registry log with
  | nil => exact ⟨trivial, describes⟩
  | cons activity rest ih =>
      obtain ⟨early, between⟩ := activity_chronicled activity describes
      obtain ⟨late, ended⟩ := ih between
      rw [visits, List.foldl_append]
      exact ⟨early.append late, ended⟩

/-- A category is collected in ascending priority. -/
theorem category_ascending (kind : Kind ι) (discovery : Discovery) (valid : ValidProviders)
    (factory : Factory) :
    (Assembly.category kind discovery valid factory).1.Pairwise fun first second =>
      first.priority ≤ second.priority := by
  let condition : Factory.Condition := {
    holds := Precondition.holds valid factory.sections
    log := Precondition.log valid factory.sections }
  obtain ⟨offered, -⟩ := factory.instantiate_adds kind condition (discovery kind.category)
  have order := (Factory.sortByPriority_inPriorityOrder
    (Factory.admissible kind condition (discovery kind.category))).ascending
  have ascending : ((Factory.sortByPriority (Factory.admissible kind condition
      (discovery kind.category))).filterMap (Factory.offer? factory.sections kind)).Pairwise
        fun first second => first.2.priority ≤ second.2.priority := by
    refine order.filterMap _ fun first second below one offered other alsoOffered => ?_
    obtain ⟨-, -, -, rfl⟩ := Factory.offer?_eq_some_iff.mp offered
    obtain ⟨-, -, -, rfl⟩ := Factory.offer?_eq_some_iff.mp alsoOffered
    exact below
  rw [← offered, List.pairwise_map] at ascending
  exact List.pairwise_map.mpr ascending

theorem Arrivals.Describes.start (discovery : Discovery) (sections : Sections) (world : World) :
    let start := (create discovery sections world).assembled
    Describes ⟨start.interceptors, start.services⟩ start where
  present := assembled_present _
  interceptors := byPriority_unique (.of_ascending (category_ascending Kind.interceptors ..))
  services := byPriority_unique (.of_ascending (category_ascending Kind.services ..))

/-- What can be seen of a list: it is its log in stable order, so that every priority parts it in
two, questions are answered with the enabled records of the log, and a removal counts those it
strikes out, which are the ones it picks unless it panics. -/
structure Mirrors (records log : List ExchangerRecord) (shown : List ExchangerRecord)
    (removes : Selection → Except Panic Nat) : Prop where
  simulated : records = byPriority log
  ascending : records.Pairwise fun first second => first.priority ≤ second.priority
  parted : ∀ priority : Int32, ∀ record ∈
    records.dropWhile (fun other => decide (other.priority ≤ priority)), priority < record.priority
  shown : shown = (byPriority log).filter Record.enabled
  counted : ∀ selects, removes selects = removal selects log
  quiet : ∀ selects : Selection, (∀ record ∈ log, selects.panic? record = none) →
    strike selects log = (log.filter fun record => !selects.picks record) ∧
      removes selects = .ok (log.countP selects.picks)

/-- Both lists of a registry show what their logs say. -/
structure Follows (registry : Registry) (log : Arrivals) : Prop where
  interceptors : Mirrors registry.interceptors log.interceptors registry.enabledInterceptors.1
    fun selects => (registry.removeInterceptors selects).1
  services : Mirrors registry.services log.services registry.enabledServices.1
    fun selects => (registry.removeServices selects).1

theorem Mirrors.of_byPriority {records log shown : List ExchangerRecord}
    {removes : Selection → Except Panic Nat} (simulated : records = byPriority log)
    (answered : shown = records.filter Record.enabled)
    (counted : ∀ selects, removes selects = removal selects log) :
    Mirrors records log shown removes where
  simulated := simulated
  ascending := simulated ▸ (sortedBy_byPriority log).ascending
  parted := lt_of_mem_dropWhile (simulated ▸ (sortedBy_byPriority log).ascending)
  shown := simulated ▸ answered
  counted := counted
  quiet selects quiet :=
    ⟨strike_of_quiet quiet, (counted selects).trans (removal_of_quiet quiet)⟩

theorem Arrivals.Describes.follows (describes : log.Describes registry) :
    registry.Follows log where
  interceptors := by
    refine .of_byPriority describes.interceptors ?_ fun selects =>
      (describes.removeInterceptors selects).1
    rw [enabledInterceptors, assembled_eq describes.present]
    rfl
  services := by
    refine .of_byPriority describes.services ?_ fun selects => (describes.removeServices selects).1
    rw [enabledServices, assembled_eq describes.present]
    rfl

/-- In the course of any calls, each list that changes is the stable order of a log. The log starts
with the assembled collection, and every operation leaves its note in it. -/
theorem lists_follow_arrivals (discovery : Discovery) (sections : Sections) (world : World)
    (activities : List Activity) :
    let start := (create discovery sections world).assembled
    let opened : Arrivals := ⟨start.interceptors, start.services⟩
    (∀ before visit after, start.visits activities = before ++ visit :: after →
      visit.registry.Follows (before.foldl Arrivals.note opened)) ∧
      (start.after activities).Follows
        ((start.visits activities).foldl Arrivals.note opened) := by
  intro start opened
  obtain ⟨chronicled, ended⟩ :=
    after_chronicled activities (Arrivals.Describes.start discovery sections world)
  refine ⟨fun before visit after split => ?_, ended.follows⟩
  rw [split] at chronicled
  exact chronicled.describes.follows

end Registry

end PluginHost
