import PluginHost.Proofs.Graph.Layers

/-
This file proves what the order of live nodes achieves. Every placed node stands behind its
dependencies, and every node that is stuck depends on another one that is stuck.
-/

namespace PluginHost.Graph

namespace Pending

theorem count_of_edges (edges : Edges) (distinct : Distinct (edges.map Prod.fst))
    (edge : Node × List Node) (member : edge ∈ edges) :
    edges.pending.count edge.1.position = edge.2.length := by
  induction edges with
  | nil => cases member
  | cons head rest ih =>
      simp only [Distinct, List.map_cons, List.nodup_cons] at distinct
      rw [Edges.pending, List.map_cons, count_cons]
      rcases List.mem_cons.mp member with rfl | later
      · rw [if_pos rfl]
      · have different : ¬ head.1.position = edge.1.position := by
          intro same
          rw [same] at distinct
          exact distinct.1 (List.mem_map_of_mem (List.mem_map_of_mem later))
        rw [if_neg different]
        exact ih distinct.2 later

end Pending

namespace Edges

theorem among_nodes (resolve : String → Option Node) (live : List Node) :
    (among resolve live).map Prod.fst = live := by
  simp [among, Function.comp_def]

theorem mem_among {resolve : String → Option Node} {live : List Node}
    {edge : Node × List Node} :
    edge ∈ among resolve live ↔ edge.1 ∈ live ∧ edge.2 = dependenciesBy resolve live edge.1 := by
  obtain ⟨node, dependencies⟩ := edge
  simp only [among, List.mem_map, Prod.mk.injEq]
  constructor
  · rintro ⟨other, present, rfl, rfl⟩
    exact ⟨present, rfl⟩
  · rintro ⟨present, rfl⟩
    exact ⟨node, present, rfl, rfl⟩

/-- What an order of the nodes has to achieve. The nodes that are stuck are those without a place
in it, and each of them depends on another one that is stuck. -/
structure Ordering (edges : Edges) (order stuck : List Node) : Prop where
  arranged : edges.Arranged [] order
  once : order.Nodup
  inside : ∀ node ∈ order, node ∈ edges.map Prod.fst
  mem_stuck : ∀ node, node ∈ stuck ↔ node ∈ edges.map Prod.fst ∧ node ∉ order
  blocked : ∀ edge ∈ edges, edge.1 ∈ stuck → ∃ dependency ∈ edge.2, dependency ∈ stuck

/-- The nodes that wait for nothing from the start. -/
def first (edges : Edges) : List Node :=
  (edges.map Prod.fst).filter fun node => edges.pending.count node.position == 0

/-- The order in which the layers place the nodes, and the counts at the end. -/
def placement (edges : Edges) : List Node × Pending :=
  edges.layers (edges.map Prod.fst).length edges.first edges.pending

theorem arrange_eq (edges : Edges) :
    edges.arrange = (edges.placement.1, (edges.map Prod.fst).filter fun node =>
      edges.placement.2.count node.position != 0) := rfl

theorem stuck_sublist (edges : Edges) : edges.arrange.2.Sublist (edges.map Prod.fst) := by
  rw [arrange_eq]
  exact List.filter_sublist

namespace Closed

variable {edges : Edges}

theorem first_frontier (closed : edges.Closed) : Frontier edges [] edges.first edges.pending := by
  have counted := Pending.count_of_edges edges closed.distinct
  refine ⟨?_, ?_, ?_, ?_, ?_⟩
  · intro edge member
    rw [counted edge member, waiting_nil]
  · intro edge member
    rw [first, List.mem_filter, counted edge member, waiting_nil, beq_iff_eq]
    simp [List.mem_map_of_mem member]
  · intro edge member absurd
    cases absurd
  · intro node member
    exact List.mem_of_mem_filter member
  · exact closed.distinct.nodup.sublist List.filter_sublist

theorem placement_frontier (closed : edges.Closed) :
    Frontier edges edges.placement.1 [] edges.placement.2 ∧
      edges.Arranged [] edges.placement.1 := by
  simpa [placement] using closed.first_frontier.layers closed (edges.map Prod.fst).length (by simp)

theorem arrange_ordering (closed : edges.Closed) :
    Ordering edges edges.arrange.1 edges.arrange.2 := by
  obtain ⟨final, arranged⟩ := closed.placement_frontier
  have inside := final.inside
  have once := final.once
  rw [List.append_nil] at inside once
  have unplaced_iff (edge : Node × List Node) (member : edge ∈ edges) :
      edge.1 ∉ edges.placement.1 ↔ waiting edges.placement.1 edge.2 ≠ 0 := by
    constructor
    · intro absent served
      exact List.not_mem_nil ((final.front edge member).mpr ⟨absent, served⟩)
    · intro waits present
      exact waits (final.served edge member present)
  have mem_stuck (node : Node) : node ∈ edges.arrange.2 ↔
      node ∈ edges.map Prod.fst ∧ node ∉ edges.placement.1 := by
    rw [arrange_eq, List.mem_filter, bne_iff_ne]
    refine and_congr_right fun present => ?_
    obtain ⟨edge, member, rfl⟩ := List.mem_map.mp present
    rw [final.counts edge member, unplaced_iff edge member]
  refine ⟨arranged, once, inside, mem_stuck, ?_⟩
  intro edge member stuck
  obtain ⟨-, absent⟩ := (mem_stuck edge.1).mp stuck
  rw [unplaced_iff edge member, ne_eq, waiting_eq_zero] at absent
  simp only [not_forall] at absent
  obtain ⟨dependency, needed, unplaced⟩ := absent
  have dependencyIn := closed.inside edge member dependency needed
  refine ⟨dependency, needed, (mem_stuck dependency).mpr ⟨dependencyIn, fun present => ?_⟩⟩
  exact unplaced ((isAmong_iff closed.distinct inside dependencyIn).mpr present)

end Closed

end Edges

theorem edges_nodes (graph : Graph) (live : List Node) :
    (graph.edges live).map Prod.fst = live := Edges.among_nodes graph.holder? live

theorem mem_edges {graph : Graph} {live : List Node} {edge : Node × List Node} :
    edge ∈ graph.edges live ↔ edge.1 ∈ live ∧ edge.2 = graph.dependencies live edge.1 :=
  Edges.mem_among

/-- The live nodes of a graph, each of them once. -/
structure Alive (graph : Graph) (live : List Node) : Prop where
  distinct : Distinct graph.nodes
  inside : ∀ node ∈ live, node ∈ graph.nodes
  once : live.Nodup

namespace Alive

variable {graph : Graph} {live : List Node}

theorem apart (alive : Alive graph live) : Distinct live :=
  alive.distinct.of_nodup alive.once alive.inside

theorem sublist (alive : Alive graph live) {some : List Node} (within : some.Sublist live) :
    Alive graph some where
  distinct := alive.distinct
  inside node member := alive.inside node (within.subset member)
  once := alive.once.sublist within

theorem isAmong_iff (alive : Alive graph live) {node : Node} (member : node ∈ graph.nodes) :
    isAmong live node = true ↔ node ∈ live :=
  Graph.isAmong_iff alive.distinct alive.inside member

theorem mem_dependencies (alive : Alive graph live) {node dependency : Node} :
    dependency ∈ graph.dependencies live node ↔
      dependency ∈ live ∧
        ∃ field ∈ node.descriptor.fields, graph.holder? field.provider = some dependency := by
  simp only [dependencies, dependenciesBy, List.mem_filterMap, Option.filter_eq_some_iff]
  constructor
  · rintro ⟨field, fieldIn, held, among⟩
    exact ⟨(alive.isAmong_iff (mem_of_holder? held)).mp among, field, fieldIn, held⟩
  · rintro ⟨present, field, fieldIn, held⟩
    exact ⟨field, fieldIn, held, (alive.isAmong_iff (mem_of_holder? held)).mpr present⟩

theorem edges_closed (alive : Alive graph live) : (graph.edges live).Closed where
  distinct := by
    rw [edges_nodes]
    exact alive.apart
  inside edge member dependency needed := by
    rw [edges_nodes]
    rw [(mem_edges.mp member).2] at needed
    exact (alive.mem_dependencies.mp needed).1

end Alive

/-- What an order of live nodes has to achieve. The nodes that are stuck are those without a place
in it, and each of them depends on another one that is stuck. -/
structure Ordering (graph : Graph) (live order stuck : List Node) : Prop where
  arranged : (graph.edges live).Arranged [] order
  once : order.Nodup
  inside : ∀ node ∈ order, node ∈ live
  mem_stuck : ∀ node, node ∈ stuck ↔ node ∈ live ∧ node ∉ order
  blocked : ∀ node ∈ stuck, ∃ dependency ∈ graph.dependencies live node, dependency ∈ stuck

theorem stuck_sublist (graph : Graph) (live : List Node) :
    (graph.dependencyOrder live).2.Sublist live := by
  have within := (graph.edges live).stuck_sublist
  rwa [edges_nodes] at within

theorem dependencyOrder_ordering {graph : Graph} {live : List Node} (alive : Alive graph live) :
    Ordering graph live (graph.dependencyOrder live).1 (graph.dependencyOrder live).2 := by
  have ordering := alive.edges_closed.arrange_ordering
  have inside := ordering.inside
  have mem_stuck := ordering.mem_stuck
  rw [edges_nodes] at inside mem_stuck
  refine ⟨ordering.arranged, ordering.once, inside, mem_stuck, fun node stuck => ?_⟩
  exact ordering.blocked (node, graph.dependencies live node)
    (mem_edges.mpr ⟨((mem_stuck node).mp stuck).1, rfl⟩) stuck

end PluginHost.Graph
