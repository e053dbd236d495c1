import PluginHost.Proofs.Graph.Grounded
import PluginHost.Proofs.Graph.Order

/-
This file follows the turns of a validation. No turn drops a grounded node, and when a turn drops
nothing, all that is left is grounded.
-/

namespace PluginHost.Graph

variable {graph : Graph} {live : List Node}

/-- The types of the providers that take part are known, so a field is either served by another
live node or wrong. -/
theorem wrongField?_eq_none_iff (alive : Alive graph live)
    (candidates : ∀ node ∈ live, graph.isCandidate node = true) (node : Node)
    (field : FieldInjection) :
    graph.wrongField? live node field = none ↔
      ∃ holder ∈ live, graph.holder? field.provider = some holder ∧
        holder.position ≠ node.position ∧ graph.Fits field := by
  rw [wrongField?]
  cases held : graph.holder? field.provider with
  | none => simp
  | some holder =>
      have among := alive.isAmong_iff (mem_of_holder? held)
      simp only [Option.some.injEq]
      by_cases itself : holder.position = node.position
      · simp [itself]
      · by_cases present : holder ∈ live
        · obtain ⟨enabled, instantiated⟩ := isCandidate_iff.mp (candidates holder present)
          have known := instantiated
          rw [isInstantiated, Table.contains, name_of_holder? held] at known
          obtain ⟨found, typed⟩ := Option.isSome_iff_exists.mp known
          simp [itself, enabled, instantiated, among.mpr present, typed, Fits, present]
        · have absent : isAmong live holder = false := by
            rw [Bool.eq_false_iff, ne_eq, among]
            exact present
          have unserved : ¬ ∃ other ∈ live, holder = other ∧
              other.position ≠ node.position ∧ graph.Fits field := by
            rintro ⟨other, otherIn, rfl, -⟩
            exact present otherIn
          simp only [unserved, iff_false, absent, Bool.not_false, if_true]
          split_ifs <;> exact not_false

theorem wrongDependency?_eq_none_iff {node : Node} :
    graph.wrongDependency? live node = none ↔
      ∀ field ∈ node.descriptor.fields, graph.wrongField? live node field = none := by
  rw [wrongDependency?, List.findSome?_eq_none_iff]

/-- While all grounded nodes are live, none of them has a wrong dependency. -/
theorem Grounded.wrongDependency? (alive : Alive graph live)
    (candidates : ∀ node ∈ live, graph.isCandidate node = true)
    (complete : ∀ node, graph.Grounded node → node ∈ live) {node : Node}
    (grounded : graph.Grounded node) : graph.wrongDependency? live node = none := by
  rw [wrongDependency?_eq_none_iff]
  intro field fieldIn
  rw [wrongField?_eq_none_iff alive candidates]
  obtain ⟨provider, held, providerGrounded⟩ := grounded.server fieldIn
  refine ⟨provider, complete provider providerGrounded, held, ?_, grounded.fits fieldIn⟩
  intro same
  have itself := alive.distinct.eq_of_position providerGrounded.member grounded.member same
  exact grounded.acyclic (.single ⟨field, fieldIn, itself ▸ held⟩)

theorem sweep_sublist (graph : Graph) (visited live : List Node) :
    (graph.sweep visited live).1.Sublist live := by
  induction visited generalizing live with
  | nil => exact List.Sublist.refl live
  | cons node rest ih =>
      rw [sweep]
      cases graph.wrongDependency? live node with
      | none => exact ih live
      | some cause => exact (ih (without live node)).trans (without_sublist live node)

/-- A sweep drops no grounded node. -/
theorem sweep_complete (alive : Alive graph live)
    (candidates : ∀ node ∈ live, graph.isCandidate node = true)
    (complete : ∀ node, graph.Grounded node → node ∈ live) (visited : List Node)
    (inside : ∀ node ∈ visited, node ∈ graph.nodes) :
    ∀ node, graph.Grounded node → node ∈ (graph.sweep visited live).1 := by
  induction visited generalizing live with
  | nil => exact complete
  | cons node rest ih =>
      have later := fun other otherIn => inside other (List.mem_cons_of_mem node otherIn)
      rw [sweep]
      cases wrong : graph.wrongDependency? live node with
      | none => exact ih alive candidates complete later
      | some cause =>
          have fewer := without_sublist live node
          apply ih (alive.sublist fewer) (fun other otherIn =>
            candidates other (fewer.subset otherIn)) _ later
          intro other grounded
          rw [mem_without alive.distinct alive.inside (inside node List.mem_cons_self)]
          refine ⟨complete other grounded, ?_⟩
          rintro rfl
          rw [grounded.wrongDependency? alive candidates complete] at wrong
          cases wrong

/-- A sweep that drops nothing has found nothing wrong. -/
theorem sweep_unchanged (visited : List Node) (inside : ∀ node ∈ visited, node ∈ live)
    (unchanged : (graph.sweep visited live).1.length = live.length) :
    (graph.sweep visited live).1 = live ∧
      ∀ node ∈ visited, graph.wrongDependency? live node = none := by
  induction visited with
  | nil => exact ⟨rfl, fun node absurd => by cases absurd⟩
  | cons node rest ih =>
      have later := fun other otherIn => inside other (List.mem_cons_of_mem node otherIn)
      rw [sweep] at unchanged ⊢
      cases wrong : graph.wrongDependency? live node with
      | none =>
          rw [wrong] at unchanged
          obtain ⟨same, right⟩ := ih later unchanged
          exact ⟨same, List.forall_mem_cons.mpr ⟨wrong, right⟩⟩
      | some cause =>
          rw [wrong] at unchanged
          have fewer : (without live node).length < live.length := by
            apply List.length_filter_lt_length_iff_exists.mpr
            exact ⟨node, inside node List.mem_cons_self, by simp⟩
          have bounded := (sweep_sublist graph rest (without live node)).length_le
          dsimp only at unchanged
          omega

/-- A grounded node is never stuck, since nothing that it depends on is. -/
theorem Grounded.not_stuck {order stuck : List Node} (alive : Alive graph live)
    (ordering : Ordering graph live order stuck) {node : Node} (grounded : graph.Grounded node) :
    node ∉ stuck := by
  have descending := grounded.acc
  induction descending with
  | intro node _ ih =>
      intro isStuck
      obtain ⟨dependency, needed, dependencyStuck⟩ := ordering.blocked node isStuck
      have depends : graph.DependsOn node dependency := (alive.mem_dependencies.mp needed).2
      exact ih dependency depends (grounded.dependsOn depends) dependencyStuck

/-- Nodes with right dependencies that can be put in order are grounded, one after the other. -/
theorem grounded_of_arranged (alive : Alive graph live)
    (candidates : ∀ node ∈ live, graph.isCandidate node = true)
    (alone : ∀ node ∈ live, graph.IsAlone node)
    (right : ∀ node ∈ live, graph.wrongDependency? live node = none) {seen order : List Node}
    (seenLive : ∀ node ∈ seen, node ∈ live) (orderLive : ∀ node ∈ order, node ∈ live)
    (settled : ∀ node ∈ seen, graph.Grounded node)
    (arranged : (graph.edges live).Arranged seen order) :
    ∀ node ∈ order, graph.Grounded node := by
  induction order generalizing seen with
  | nil => exact fun node absurd => by cases absurd
  | cons node rest ih =>
      obtain ⟨head, tail⟩ := arranged
      have present := orderLive node List.mem_cons_self
      have grounded : graph.Grounded node := by
        refine grounded_iff.mpr ⟨alive.inside node present, candidates node present,
          alone node present, fun field fieldIn => ?_⟩
        have served := wrongDependency?_eq_none_iff.mp (right node present) field fieldIn
        rw [wrongField?_eq_none_iff alive candidates] at served
        obtain ⟨holder, holderLive, held, -, fits⟩ := served
        have needed := alive.mem_dependencies.mpr ⟨holderLive, field, fieldIn, held⟩
        have known := head (node, graph.dependencies live node) (mem_edges.mpr ⟨present, rfl⟩) rfl
          holder needed
        rw [isAmong_iff alive.apart seenLive holderLive] at known
        exact ⟨holder, name_of_holder? held, settled holder known, fits⟩
      refine List.forall_mem_cons.mpr ⟨grounded, ih ?_ ?_ ?_ tail⟩
      · intro other otherIn
        rcases List.mem_append.mp otherIn with before | here
        · exact seenLive other before
        · rwa [List.mem_singleton.mp here]
      · exact fun other otherIn => orderLive other (List.mem_cons_of_mem node otherIn)
      · intro other otherIn
        rcases List.mem_append.mp otherIn with before | here
        · exact settled other before
        · rwa [List.mem_singleton.mp here]

/-- What holds between two turns. Nothing grounded is dropped, and nothing is left in that may not
take part. -/
structure Invariant (graph : Graph) (live : List Node) : Prop where
  alive : Alive graph live
  candidates : ∀ node ∈ live, graph.isCandidate node = true
  alone : ∀ node ∈ live, graph.IsAlone node
  complete : ∀ node, graph.Grounded node → node ∈ live

namespace Invariant

theorem shrink (invariant : Invariant graph live) {some : List Node} (fewer : some.Sublist live)
    (complete : ∀ node, graph.Grounded node → node ∈ some) : Invariant graph some where
  alive := invariant.alive.sublist fewer
  candidates node present := invariant.candidates node (fewer.subset present)
  alone node present := invariant.alone node (fewer.subset present)
  complete := complete

theorem sweep (invariant : Invariant graph live) : Invariant graph (graph.sweep live live).1 :=
  invariant.shrink (sweep_sublist graph live live) (sweep_complete invariant.alive
    invariant.candidates invariant.complete live invariant.alive.inside)

end Invariant

theorem turn_live (graph : Graph) (live : List Node) :
    (graph.turn live).live = (graph.sweep live live).1.filter fun node =>
      !isAmong (graph.dependencyOrder (graph.sweep live live).1).2 node := rfl

theorem turn_order (graph : Graph) (live : List Node) :
    (graph.turn live).order = (graph.dependencyOrder (graph.sweep live live).1).1 := rfl

theorem turn_sublist (graph : Graph) (live : List Node) :
    (graph.turn live).live.Sublist live := by
  rw [turn_live]
  exact List.filter_sublist.trans (sweep_sublist graph live live)

theorem Invariant.turn (invariant : Invariant graph live) :
    Invariant graph (graph.turn live).live := by
  apply invariant.shrink (turn_sublist graph live)
  intro node grounded
  have swept := invariant.sweep
  have ordering := dependencyOrder_ordering swept.alive
  have present := swept.complete node grounded
  rw [turn_live, List.mem_filter, Bool.not_eq_true', Bool.eq_false_iff, ne_eq,
    isAmong_iff swept.alive.apart (fun other stuck => ((ordering.mem_stuck other).mp stuck).1)
      present]
  exact ⟨present, grounded.not_stuck swept.alive ordering⟩

/-- A turn that drops nothing has found nothing wrong and nothing stuck. -/
theorem Invariant.turn_unchanged (invariant : Invariant graph live)
    (unchanged : (graph.turn live).live.length = live.length) :
    (graph.turn live).live = live ∧
      (∀ node ∈ live, graph.wrongDependency? live node = none) ∧
      Ordering graph live (graph.turn live).order [] := by
  have kept : ((graph.sweep live live).1.filter fun node =>
      !isAmong (graph.dependencyOrder (graph.sweep live live).1).2 node).length = live.length := by
    rw [← turn_live, unchanged]
  have bounded := (sweep_sublist graph live live).length_le
  have filtered := List.length_filter_le (fun node =>
      !isAmong (graph.dependencyOrder (graph.sweep live live).1).2 node) (graph.sweep live live).1
  obtain ⟨same, right⟩ := sweep_unchanged live (fun node member => member)
    (show (graph.sweep live live).1.length = live.length by omega)
  have ordering := dependencyOrder_ordering invariant.alive
  rw [same] at kept
  rw [turn_live, turn_order, same]
  have notStuck := List.length_filter_eq_length_iff.mp kept
  have nothing : (graph.dependencyOrder live).2 = [] := by
    apply List.eq_nil_iff_forall_not_mem.mpr
    intro node stuck
    have present := ((ordering.mem_stuck node).mp stuck).1
    have among : isAmong (graph.dependencyOrder live).2 node = true :=
      List.any_eq_true.mpr ⟨node, stuck, by simp⟩
    have never := notStuck node present
    rw [among] at never
    cases never
  rw [nothing] at ordering
  exact ⟨List.filter_eq_self.mpr notStuck, right, ordering⟩

theorem Ordering.perm {order : List Node} (alive : Alive graph live)
    (ordering : Ordering graph live order []) : order.Perm live := by
  rw [List.perm_ext_iff_of_nodup ordering.once alive.once]
  intro node
  refine ⟨ordering.inside node, fun present => ?_⟩
  by_contra absent
  exact List.not_mem_nil ((ordering.mem_stuck node).mpr ⟨present, absent⟩)

/-- Where nothing is wrong and nothing stuck, all live nodes are grounded. -/
theorem Invariant.grounded (invariant : Invariant graph live) {order : List Node}
    (right : ∀ node ∈ live, graph.wrongDependency? live node = none)
    (ordering : Ordering graph live order []) : ∀ node ∈ live, graph.Grounded node := by
  intro node present
  have placed := (ordering.perm invariant.alive).mem_iff.mpr present
  exact grounded_of_arranged invariant.alive invariant.candidates invariant.alone right
    (fun _ absurd => by cases absurd) ordering.inside (fun _ absurd => by cases absurd)
    ordering.arranged node placed

/-- What a reduction leaves behind. -/
structure Reduced (graph : Graph) (live : List Node) (reduction : Reduction) : Prop where
  sublist : reduction.live.Sublist live
  mem_iff : ∀ node, node ∈ reduction.live ↔ graph.Grounded node
  ordering : Ordering graph reduction.live reduction.order []

theorem Invariant.reduce (invariant : Invariant graph live) :
    Reduced graph live (graph.reduce live) := by
  induction live using Graph.reduce.induct graph with
  | case1 live taken fewer ih =>
      obtain ⟨sublist, mem_iff, ordering⟩ := ih invariant.turn
      rw [Graph.reduce, if_pos fewer]
      exact ⟨sublist.trans (turn_sublist graph live), mem_iff, ordering⟩
  | case2 live taken same =>
      have unchanged : (graph.turn live).live.length = live.length :=
        Nat.le_antisymm (turn_sublist graph live).length_le (Nat.not_lt.mp same)
      obtain ⟨kept, right, ordering⟩ := invariant.turn_unchanged unchanged
      rw [Graph.reduce, if_neg same]
      refine ⟨turn_sublist graph live, fun node => ?_, by rwa [kept]⟩
      rw [kept]
      exact ⟨invariant.grounded right ordering node, invariant.complete node⟩

end PluginHost.Graph
