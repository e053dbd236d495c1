import PluginHost.Proofs.Graph.Causes

/-
This file proves that the findings of a validation are complete and true. Every provider that takes
part is kept or has one finding, and the cause of each finding can be read off the input and the
findings in front of it.
-/

namespace PluginHost.Graph

variable {graph : Graph} {decided : List (Node × Exclusion)} {live : List Node}

section Holder

variable {name : String} {node : Node}

theorem holder?_eq_none_iff :
    graph.holder? name = none ↔ ∀ other ∈ graph.nodes, other.descriptor.name ≠ name := by
  rw [holder?, Option.or_eq_none_iff, List.find?_eq_none, List.find?_eq_none]
  simp only [Bool.and_eq_true, beq_iff_eq, not_and]
  constructor
  · exact And.right
  · exact fun unheld => ⟨fun other member named => absurd named (unheld other member), unheld⟩

/-- A disabled node holds a name only if no enabled node has it. -/
theorem disabled_of_holder? (held : graph.holder? name = some node)
    (disabled : graph.isEnabled node = false) :
    ∀ other ∈ graph.nodes, other.descriptor.name = name → graph.isEnabled other = false := by
  rw [holder?, Option.or_eq_some_iff] at held
  rcases held with first | ⟨never, -⟩
  · have accepted := List.find?_some first
    rw [disabled, Bool.and_false] at accepted
    cases accepted
  · intro other member named
    have refused := List.find?_eq_none.mp never other member
    simpa [named] using refused

end Holder

theorem mem_candidates {node : Node} :
    node ∈ graph.candidates ↔ node ∈ graph.nodes ∧ graph.isCandidate node = true := by
  rw [candidates, List.mem_filter]

/-- Each cause is explained by the input and the decisions in front of it. -/
def Truthful (graph : Graph) : List (Node × Exclusion) → List (Node × Exclusion) → Prop
  | _, [] => True
  | earlier, (node, cause) :: rest =>
    graph.Explains earlier node cause ∧ graph.Truthful (earlier ++ [(node, cause)]) rest

theorem Truthful.append {earlier first second : List (Node × Exclusion)}
    (truthful : graph.Truthful earlier first) (more : graph.Truthful (earlier ++ first) second) :
    graph.Truthful earlier (first ++ second) := by
  induction first generalizing earlier with
  | nil => simpa using more
  | cons entry rest ih =>
      obtain ⟨explained, others⟩ := truthful
      refine ⟨explained, ih others ?_⟩
      rwa [List.append_assoc, List.singleton_append]

/-- What holds at every moment of a validation. Whoever takes part is live or decided, once. -/
structure Account (graph : Graph) (decided : List (Node × Exclusion)) (live : List Node) : Prop where
  distinct : Distinct graph.nodes
  all : (live ++ decided.map Prod.fst).Perm graph.candidates
  truthful : graph.Truthful [] decided

/-- No live node depends on one that was dropped as part of a cycle. -/
def Clear (graph : Graph) (decided : List (Node × Exclusion)) (live : List Node) : Prop :=
  ∀ node ∈ live, ∀ provider, graph.DependsOn node provider → (provider, .cycle) ∉ decided

namespace Account

theorem candidate (account : Account graph decided live) :
    ∀ node ∈ live, node ∈ graph.nodes ∧ graph.isCandidate node = true := by
  intro node present
  exact mem_candidates.mp (account.all.subset (List.mem_append_left _ present))

theorem once (account : Account graph decided live) : (live ++ decided.map Prod.fst).Nodup :=
  account.all.nodup_iff.mpr (account.distinct.nodup.sublist List.filter_sublist)

theorem alive (account : Account graph decided live) : Alive graph live where
  distinct := account.distinct
  inside node present := (account.candidate node present).1
  once := account.once.sublist (List.sublist_append_left live _)

/-- Whoever takes part and is not live any more has been decided. -/
theorem decided_of_absent (account : Account graph decided live) {node : Node}
    (member : node ∈ graph.nodes) (candidate : graph.isCandidate node = true)
    (absent : node ∉ live) : ∃ cause, (node, cause) ∈ decided := by
  have somewhere := account.all.mem_iff.mpr (mem_candidates.mpr ⟨member, candidate⟩)
  obtain ⟨entry, entryIn, rfl⟩ := List.mem_map.mp ((List.mem_append.mp somewhere).resolve_left absent)
  exact ⟨entry.2, entryIn⟩

/-- Some of the live nodes can be dropped together, each with a true cause. -/
theorem exclude (account : Account graph decided live) {added : List (Node × Exclusion)}
    {remaining : List Node} (parts : (remaining ++ added.map Prod.fst).Perm live)
    (more : graph.Truthful decided added) : Account graph (decided ++ added) remaining where
  distinct := account.distinct
  truthful := account.truthful.append more
  all := by
    have swapped : ((decided ++ added).map Prod.fst).Perm
        (added.map Prod.fst ++ decided.map Prod.fst) := by
      rw [List.map_append]
      exact List.perm_append_comm
    have grouped := swapped.append_left remaining
    rw [← List.append_assoc] at grouped
    exact (grouped.trans (parts.append_right _)).trans account.all

section Sweep

/-- A wrong field tells the truth, and it tells of no cycle. -/
theorem wrongField? (account : Account graph decided live) (clear : Clear graph decided live)
    {node : Node} (present : node ∈ live) {field : FieldInjection}
    (own : field ∈ node.descriptor.fields) {cause : Exclusion}
    (wrong : graph.wrongField? live node field = some cause) :
    graph.Explains decided node cause ∧ cause ≠ .cycle := by
  rw [Graph.wrongField?] at wrong
  cases held : graph.holder? field.provider with
  | none =>
      rw [held] at wrong
      obtain rfl := Option.some.inj wrong
      exact ⟨.defect (.unknown own (holder?_eq_none_iff.mp held)), fun absurd => by cases absurd⟩
  | some holder =>
      obtain ⟨member, named⟩ := holder?_spec held
      simp only [held] at wrong
      split_ifs at wrong with itself disabled untyped decidedBefore
      · obtain rfl := Option.some.inj wrong
        have same := account.distinct.eq_of_position member (account.alive.inside node present)
          (beq_iff_eq.mp itself)
        exact ⟨.defect (.itself own (same ▸ named.symm)), fun absurd => by cases absurd⟩
      · obtain rfl := Option.some.inj wrong
        have never := disabled_of_holder? held (by simpa using disabled)
        exact ⟨.defect (.disabled own member named never), fun absurd => by cases absurd⟩
      · obtain rfl := Option.some.inj wrong
        have enabled : graph.isEnabled holder = true := by simpa using disabled
        have absent : graph.types.find? field.provider = none := by
          simpa [isInstantiated, Table.contains, named] using untyped
        exact ⟨.defect (.untyped own member enabled named absent), fun absurd => by cases absurd⟩
      · obtain rfl := Option.some.inj wrong
        have candidate : graph.isCandidate holder = true :=
          isCandidate_iff.mpr ⟨by simpa using disabled, by simpa using untyped⟩
        have absent : holder ∉ live := fun still => by
          rw [(account.alive.isAmong_iff member).mpr still] at decidedBefore
          cases decidedBefore
        obtain ⟨earlier, known⟩ := account.decided_of_absent member candidate absent
        have broken : earlier ≠ .cycle := by
          rintro rfl
          exact clear node present holder ⟨field, own, held⟩ known
        exact ⟨.dependency own held known broken, fun absurd => by cases absurd⟩
      · obtain ⟨found, typed, refused⟩ := Option.bind_eq_some_iff.mp wrong
        split_ifs at refused with assignable
        obtain rfl := Option.some.inj refused
        exact ⟨.defect (.unfit own typed (Bool.eq_false_iff.mpr assignable)),
          fun absurd => by cases absurd⟩

theorem wrongDependency? (account : Account graph decided live) (clear : Clear graph decided live)
    {node : Node} (present : node ∈ live) {cause : Exclusion}
    (wrong : graph.wrongDependency? live node = some cause) :
    graph.Explains decided node cause ∧ cause ≠ .cycle := by
  obtain ⟨field, own, wrongField⟩ := List.exists_of_findSome?_eq_some wrong
  exact account.wrongField? clear present own wrongField

theorem without_perm (account : Account graph decided live) {node : Node} (present : node ∈ live) :
    (without live node ++ [node]).Perm live := by
  have once : (without live node ++ [node]).Nodup := by
    refine List.nodup_append.mpr ⟨account.alive.once.sublist (without_sublist live node),
      List.nodup_singleton node, ?_⟩
    intro first firstIn second secondIn
    rw [List.mem_singleton.mp secondIn]
    exact ((mem_without account.distinct account.alive.inside
      (account.alive.inside node present)).mp firstIn).2
  rw [List.perm_ext_iff_of_nodup once account.alive.once]
  intro other
  rw [List.mem_append, mem_without account.distinct account.alive.inside
    (account.alive.inside node present), List.mem_singleton]
  by_cases same : other = node
  · simp [same, present]
  · simp [same]

theorem sweep (account : Account graph decided live) (clear : Clear graph decided live)
    (visited : List Node) (once : visited.Nodup) (inside : ∀ node ∈ visited, node ∈ live) :
    Account graph (decided ++ (graph.sweep visited live).2) (graph.sweep visited live).1 ∧
      Clear graph (decided ++ (graph.sweep visited live).2) (graph.sweep visited live).1 := by
  induction visited generalizing decided live with
  | nil => simpa [Graph.sweep] using And.intro account clear
  | cons node rest ih =>
      obtain ⟨fresh, restOnce⟩ := List.nodup_cons.mp once
      have present := inside node List.mem_cons_self
      have later := fun other otherIn => inside other (List.mem_cons_of_mem node otherIn)
      rw [Graph.sweep]
      cases wrong : graph.wrongDependency? live node with
      | none => exact ih account clear restOnce later
      | some cause =>
          obtain ⟨explained, broken⟩ := account.wrongDependency? clear present wrong
          have excluded : Account graph (decided ++ [(node, cause)]) (without live node) :=
            account.exclude (account.without_perm present) ⟨explained, trivial⟩
          have stillClear : Clear graph (decided ++ [(node, cause)]) (without live node) := by
            intro other otherIn provider depends known
            have otherLive := (without_sublist live node).subset otherIn
            rcases List.mem_append.mp known with before | here
            · exact clear other otherLive provider depends before
            · exact broken (Prod.mk.inj (List.mem_singleton.mp here)).2.symm
          have stillInside : ∀ other ∈ rest, other ∈ without live node := by
            intro other otherIn
            rw [mem_without account.distinct account.alive.inside
              (account.alive.inside node present)]
            exact ⟨later other otherIn, fun same => fresh (same ▸ otherIn)⟩
          have swept := ih excluded stillClear restOnce stillInside
          rwa [List.append_assoc, List.singleton_append] at swept

end Sweep

end Account

/-- A node that depends on itself does not survive the sweep that visits it. -/
theorem sweep_apart (visited : List Node) (live : List Node) {node : Node} (visits : node ∈ visited)
    (kept : node ∈ (graph.sweep visited live).1) : ¬ graph.DependsOn node node := by
  induction visited generalizing live with
  | nil => cases visits
  | cons first rest ih =>
      rw [sweep] at kept
      cases wrong : graph.wrongDependency? live first with
      | some cause =>
          rw [wrong] at kept
          rcases List.mem_cons.mp visits with rfl | later
          · have dropped := (sweep_sublist graph rest _).subset kept
            simp [without] at dropped
          · exact ih _ later kept
      | none =>
          rw [wrong] at kept
          rcases List.mem_cons.mp visits with rfl | later
          · rintro ⟨field, own, held⟩
            have right := wrongDependency?_eq_none_iff.mp wrong field own
            simp [wrongField?, held] at right
          · exact ih _ later kept

/-- What a placed node depends on is placed in front of it. -/
theorem Edges.Arranged.placed {edges : Edges} {seen order : List Node}
    (arranged : edges.Arranged seen order) {node : Node} (present : node ∈ order) :
    ∀ edge ∈ edges, edge.1 = node → ∀ dependency ∈ edge.2,
      isAmong (seen ++ order) dependency = true := by
  induction order generalizing seen with
  | nil => cases present
  | cons first rest ih =>
      obtain ⟨served, others⟩ := arranged
      rcases List.mem_cons.mp present with rfl | later
      · intro edge member here dependency needed
        rw [isAmong_append, served edge member here dependency needed, Bool.true_or]
      · have tail := ih others later
        rwa [List.append_assoc, List.singleton_append] at tail

/-- What depends on a stuck node is stuck. -/
theorem Ordering.stuck_of_dependsOn {order stuck : List Node} (alive : Alive graph live)
    (ordering : Ordering graph live order stuck) {node provider : Node} (present : node ∈ live)
    (depends : graph.DependsOn node provider) (providerStuck : provider ∈ stuck) :
    node ∈ stuck := by
  obtain ⟨providerLive, unplaced⟩ := (ordering.mem_stuck provider).mp providerStuck
  refine (ordering.mem_stuck node).mpr ⟨present, fun placed => unplaced ?_⟩
  have needed := alive.mem_dependencies.mpr ⟨providerLive, depends⟩
  have ahead := ordering.arranged.placed placed (node, graph.dependencies live node)
    (mem_edges.mpr ⟨present, rfl⟩) rfl provider needed
  exact (isAmong_iff alive.apart ordering.inside providerLive).mp ahead

/-- Where no live node depends on itself, a stuck one leads to a cycle. -/
theorem Ordering.reachesCycle {order stuck : List Node} (alive : Alive graph live)
    (candidates : ∀ node ∈ live, graph.isCandidate node = true)
    (apart : ∀ node ∈ live, ¬ graph.DependsOn node node)
    (ordering : Ordering graph live order stuck) {node : Node} (isStuck : node ∈ stuck) :
    graph.ReachesCycle node := by
  have stuckLive (other : Node) (otherStuck : other ∈ stuck) : other ∈ live :=
    ((ordering.mem_stuck other).mp otherStuck).1
  have onward : ∀ other ∈ stuck, ∃ provider ∈ stuck,
      graph.DependsOn other provider ∧ provider ≠ other := by
    intro other otherStuck
    obtain ⟨provider, needed, providerStuck⟩ := ordering.blocked other otherStuck
    have depends : graph.DependsOn other provider := (alive.mem_dependencies.mp needed).2
    refine ⟨provider, providerStuck, depends, ?_⟩
    rintro rfl
    exact apart provider (stuckLive provider providerStuck) depends
  obtain ⟨cycle, long, once, inside, chain, reached⟩ := exists_cycle onward isStuck
  refine ⟨cycle, ⟨long, once, fun other on => ?_, chain⟩, reached⟩
  have present := stuckLive other (inside other on)
  exact ⟨alive.inside other present, candidates other present⟩

theorem truthful_cycles {earlier : List (Node × Exclusion)} {stuck : List Node}
    (reaches : ∀ node ∈ stuck, graph.ReachesCycle node) :
    graph.Truthful earlier (stuck.map fun node => (node, .cycle)) := by
  induction stuck generalizing earlier with
  | nil => trivial
  | cons node rest ih =>
      obtain ⟨first, others⟩ := List.forall_mem_cons.mp reaches
      exact ⟨.cycle first, ih others⟩

/-- A list is made up of the part without the chosen nodes and of these. -/
theorem filter_isAmong_perm (apart : Distinct live) {chosen : List Node} (once : chosen.Nodup)
    (inside : ∀ node ∈ chosen, node ∈ live) :
    ((live.filter fun node => !isAmong chosen node) ++ chosen).Perm live := by
  have same : chosen.Perm (live.filter (isAmong chosen)) := by
    rw [List.perm_ext_iff_of_nodup once (apart.nodup.sublist List.filter_sublist)]
    intro node
    rw [List.mem_filter]
    constructor
    · exact fun member =>
        ⟨inside node member, (isAmong_iff apart inside (inside node member)).mpr member⟩
    · exact fun ⟨present, among⟩ => (isAmong_iff apart inside present).mp among
  have parts := (List.filter_append_perm (isAmong chosen) live)
  exact ((same.append_left _).trans List.perm_append_comm).trans parts

namespace Account

theorem turn (account : Account graph decided live) (clear : Clear graph decided live) :
    Account graph (decided ++ (graph.turn live).found) (graph.turn live).live ∧
      Clear graph (decided ++ (graph.turn live).found) (graph.turn live).live := by
  obtain ⟨swept, sweptClear⟩ :=
    account.sweep clear live account.alive.once fun _ present => present
  have ordering := dependencyOrder_ordering swept.alive
  have apart : ∀ node ∈ (graph.sweep live live).1, ¬ graph.DependsOn node node :=
    fun node kept => sweep_apart live live ((sweep_sublist graph live live).subset kept) kept
  have stuckLive : ∀ node ∈ (graph.dependencyOrder (graph.sweep live live).1).2,
      node ∈ (graph.sweep live live).1 := fun node stuck => ((ordering.mem_stuck node).mp stuck).1
  have found : (graph.turn live).found = (graph.sweep live live).2 ++
      (graph.dependencyOrder (graph.sweep live live).1).2.map fun node => (node, .cycle) := rfl
  rw [found, ← List.append_assoc, turn_live]
  constructor
  · apply swept.exclude
    · rw [List.map_map]
      have stuckOnce : (graph.dependencyOrder (graph.sweep live live).1).2.Nodup :=
        swept.alive.once.sublist (stuck_sublist graph _)
      simpa [Function.comp_def] using filter_isAmong_perm swept.alive.apart stuckOnce stuckLive
    · exact truthful_cycles fun node stuck => ordering.reachesCycle swept.alive
        (fun other kept => (swept.candidate other kept).2) apart stuck
  · intro node kept provider depends known
    obtain ⟨present, notStuck⟩ := List.mem_filter.mp kept
    rcases List.mem_append.mp known with before | here
    · exact sweptClear node present provider depends before
    · obtain ⟨other, providerStuck, same⟩ := List.mem_map.mp here
      obtain ⟨rfl, -⟩ := Prod.mk.inj same
      have nodeStuck := ordering.stuck_of_dependsOn swept.alive present depends providerStuck
      rw [(isAmong_iff swept.alive.apart stuckLive present).mpr nodeStuck] at notStuck
      cases notStuck

theorem reduce (account : Account graph decided live) (clear : Clear graph decided live) :
    Account graph (decided ++ (graph.reduce live).found) (graph.reduce live).live := by
  fun_induction Graph.reduce graph live generalizing decided with
  | case1 live taken fewer rest =>
      rename_i ih
      obtain ⟨turned, turnedClear⟩ := account.turn clear
      have settled := ih turned turnedClear
      rwa [List.append_assoc] at settled
  | case2 live taken => exact (account.turn clear).1

end Account

theorem truthful_shared (distinct : Distinct graph.nodes) {earlier : List (Node × Exclusion)}
    {shared : List Node} (inside : ∀ node ∈ shared, node ∈ graph.candidates)
    (shares : ∀ node ∈ shared, graph.sharesName node = true) :
    graph.Truthful earlier (shared.map fun node => (node, .duplicateName)) := by
  induction shared generalizing earlier with
  | nil => trivial
  | cons node rest ih =>
      obtain ⟨member, others⟩ := List.forall_mem_cons.mp inside
      obtain ⟨here, later⟩ := List.forall_mem_cons.mp shares
      obtain ⟨present, candidate⟩ := mem_candidates.mp member
      refine ⟨.defect ?_, ih others later⟩
      have enabled := (isCandidate_iff.mp candidate).1
      have company : ¬ graph.IsAlone node := by
        rw [← sharesName_eq_false_iff distinct present enabled, here]
        exact Bool.noConfusion
      simp only [IsAlone, not_forall] at company
      obtain ⟨other, otherIn, otherEnabled, named, differs⟩ := company
      exact .shared otherIn otherEnabled named fun same =>
        differs (distinct.eq_of_position otherIn present same)

/-- Before the first turn, the holders of shared names are decided and all others are live. -/
theorem starters_account (distinct : Distinct graph.nodes) :
    Account graph ((graph.candidates.filter graph.sharesName).map fun node =>
      (node, .duplicateName)) graph.starters := by
  refine ⟨distinct, ?_, ?_⟩
  · have parts := List.filter_append_perm graph.sharesName graph.candidates
    rw [List.map_map]
    simpa [Function.comp_def, starters] using List.perm_append_comm.trans parts
  · exact truthful_shared distinct (fun node member => List.mem_of_mem_filter member)
      fun node member => (List.mem_filter.mp member).2

theorem clear_shared (shared : List Node) :
    Clear graph (shared.map fun node => (node, .duplicateName)) live := by
  intro node present provider depends known
  obtain ⟨other, -, same⟩ := List.mem_map.mp known
  cases (Prod.mk.inj same).2

/-- After a validation, everyone who takes part is kept or has a finding that tells the truth. -/
theorem reduction_account (distinct : Distinct graph.nodes) :
    Account graph graph.reduction.found graph.reduction.live :=
  (starters_account distinct).reduce (clear_shared _)

/-- Whoever has a type under a name that another enabled provider has too is excluded. -/
theorem duplicate_mem_findings {providers : List Descriptor} {sections : Sections}
    {types : TypeTable} {descriptor other : Descriptor} (listed : descriptor ∈ providers)
    (otherListed : other ∈ providers) (enabled : sections.enables descriptor = true)
    (otherEnabled : sections.enables other = true) (named : other.name = descriptor.name)
    (differs : other ≠ descriptor) (typed : types.contains descriptor.name = true) :
    ⟨descriptor.name, descriptor.className, .duplicateName⟩ ∈
      (ofProviders providers sections types).validate.findings := by
  have distinct := ofProviders_distinct providers sections types
  rw [← ofProviders_descriptors providers sections types] at listed otherListed
  obtain ⟨node, nodeIn, rfl⟩ := List.mem_map.mp listed
  obtain ⟨company, companyIn, rfl⟩ := List.mem_map.mp otherListed
  have candidate : node ∈ (ofProviders providers sections types).candidates :=
    mem_candidates.mpr ⟨nodeIn, isCandidate_iff.mpr ⟨enabled, typed⟩⟩
  have shared : (ofProviders providers sections types).sharesName node = true := by
    by_contra single
    rw [Bool.not_eq_true, sharesName_eq_false_iff distinct nodeIn enabled] at single
    exact differs (congrArg Node.descriptor (single company companyIn otherEnabled named))
  refine List.mem_map.mpr ⟨(node, .duplicateName), ?_, rfl⟩
  rw [reduction]
  exact List.mem_append_left _
    (List.mem_map.mpr ⟨node, List.mem_filter.mpr ⟨candidate, shared⟩, rfl⟩)

/-- A node without a defect, near or far, can only be in the way of a cycle. -/
theorem Truthful.cause_eq_cycle {earlier rest : List (Node × Exclusion)}
    (truthful : graph.Truthful earlier rest)
    (settled : ∀ node cause, (node, cause) ∈ earlier → graph.Flawless node → cause = .cycle) :
    ∀ node cause, (node, cause) ∈ rest → graph.Flawless node → cause = .cycle := by
  induction rest generalizing earlier with
  | nil => exact fun node cause absurd => by cases absurd
  | cons entry rest ih =>
      obtain ⟨first, firstCause⟩ := entry
      obtain ⟨explained, others⟩ := truthful
      have here (flawless : graph.Flawless first) : firstCause = .cycle := by
        cases explained with
        | defect defect => exact absurd defect (flawless first firstCause .refl)
        | cycle reaches => rfl
        | @dependency field own provider held cause decided broken =>
            refine absurd (settled provider cause decided fun other defect reached => ?_) broken
            exact flawless other defect (.head ⟨field, own, held⟩ reached)
      have extended : ∀ node cause, (node, cause) ∈ earlier ++ [(first, firstCause)] →
          graph.Flawless node → cause = .cycle := by
        intro node cause known flawless
        rcases List.mem_append.mp known with before | last
        · exact settled node cause before flawless
        · obtain ⟨rfl, rfl⟩ := Prod.mk.inj (List.mem_singleton.mp last)
          exact here flawless
      intro node cause member flawless
      rcases List.mem_cons.mp member with same | later
      · obtain ⟨rfl, rfl⟩ := Prod.mk.inj same
        exact here flawless
      · exact ih others extended node cause later flawless

/-- The finding tells whom the exclusion concerns, and why it was decided. -/
structure Reports (entry : Node × Exclusion) (finding : Finding) : Prop where
  provider : finding.provider = entry.1.descriptor.name
  className : finding.className = entry.1.descriptor.className
  cause : finding.cause = entry.2

/-- Every exclusion is reported, in the order of the decisions, and nothing else is. -/
theorem validate_findings (graph : Graph) :
    List.Forall₂ Reports graph.reduction.found graph.validate.findings := by
  rw [validate, List.forall₂_map_right_iff]
  exact List.forall₂_same.mpr fun entry _ => ⟨rfl, rfl, rfl⟩

/-- Each provider that takes part is kept or has exactly one finding, and nobody else is mentioned.
A finding tells the name and the class of the provider and the cause of its exclusion. Each cause is
explained by the input and the findings in front of it, and a node from which no direct defect can
be reached is excluded for a cycle only. -/
theorem validate_explained (providers : List Descriptor) (sections : Sections)
    (types : TypeTable) :
    let graph := ofProviders providers sections types
    let reduction := graph.reduction
    graph.validate.valid = reduction.live.map Node.descriptor ∧
      List.Forall₂ Reports reduction.found graph.validate.findings ∧
      (reduction.live ++ reduction.found.map Prod.fst).Nodup ∧
      (∀ node, node ∈ reduction.live ++ reduction.found.map Prod.fst ↔
        node ∈ graph.nodes ∧ sections.enables node.descriptor = true ∧
          types.contains node.descriptor.name = true) ∧
      graph.Truthful [] reduction.found ∧
      ∀ node cause, (node, cause) ∈ reduction.found → graph.Flawless node → cause = .cycle := by
  intro graph reduction
  have account := reduction_account (ofProviders_distinct providers sections types)
  refine ⟨rfl, validate_findings graph, account.once, fun node => ?_, account.truthful, ?_⟩
  · rw [account.all.mem_iff, mem_candidates, isCandidate_iff]
    rfl
  · exact account.truthful.cause_eq_cycle fun node cause absurd => by cases absurd

end PluginHost.Graph
