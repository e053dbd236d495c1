import PluginHost.Proofs.Graph.Release
import Mathlib.Data.List.Perm.Subperm

/-
This file follows the layers of an order. What they place is arranged, and at the end every node
without a place still waits for another one.
-/

namespace PluginHost.Graph

/-- Each node of the order stands behind its dependencies, which are seen or placed before it. -/
def Edges.Arranged (edges : Edges) : List Node → List Node → Prop
  | _, [] => True
  | seen, node :: rest =>
    (∀ edge ∈ edges, edge.1 = node → ∀ dependency ∈ edge.2, isAmong seen dependency = true) ∧
      edges.Arranged (seen ++ [node]) rest

namespace Edges

/-- A layer whose dependencies are all seen can be put in front. -/
theorem Arranged.layer {edges : Edges} {seen layer order : List Node}
    (ready : ∀ edge ∈ edges, edge.1 ∈ layer → waiting seen edge.2 = 0)
    (arranged : edges.Arranged (seen ++ layer) order) : edges.Arranged seen (layer ++ order) := by
  induction layer generalizing seen with
  | nil => simpa using arranged
  | cons node rest ih =>
      have first : ∀ edge ∈ edges, edge.1 = node →
          ∀ dependency ∈ edge.2, isAmong seen dependency = true := by
        intro edge member same
        exact (waiting_eq_zero seen edge.2).mp
          (ready edge member (by rw [same]; exact List.mem_cons_self))
      refine ⟨first, ih ?_ (by simpa using arranged)⟩
      intro edge member later
      rw [waiting_eq_zero]
      intro dependency needed
      have seenBefore := (waiting_eq_zero seen edge.2).mp
        (ready edge member (List.mem_cons_of_mem _ later)) dependency needed
      rw [isAmong_append, seenBefore, Bool.true_or]

theorem layers_cons (edges : Edges) (fuel : Nat) (node : Node) (rest : List Node)
    (pending : Pending) :
    edges.layers (fuel + 1) (node :: rest) pending =
      let released := pending.release ((node :: rest).flatMap edges.dependents)
      let next := edges.layers fuel (sortByPosition released.2) released.1
      (node :: rest ++ next.1, next.2) := rfl

end Edges

/-- The state between two layers. The counts say what each node still waits for, and the layer
holds the nodes without a place that wait for nothing. -/
structure Frontier (edges : Edges) (placed layer : List Node) (pending : Pending) : Prop where
  counts : ∀ edge ∈ edges, pending.count edge.1.position = waiting placed edge.2
  front : ∀ edge ∈ edges, edge.1 ∈ layer ↔ edge.1 ∉ placed ∧ waiting placed edge.2 = 0
  served : ∀ edge ∈ edges, edge.1 ∈ placed → waiting placed edge.2 = 0
  inside : ∀ node ∈ placed ++ layer, node ∈ edges.map Prod.fst
  once : (placed ++ layer).Nodup

namespace Frontier

variable {edges : Edges} {placed layer : List Node} {pending : Pending}

theorem among_iff (closed : edges.Closed) {some : List Node} {node : Node}
    (within : ∀ other ∈ some, other ∈ edges.map Prod.fst) (member : node ∈ edges.map Prod.fst) :
    isAmong some node = true ↔ node ∈ some :=
  isAmong_iff closed.distinct within member

/-- Releasing the layer lowers the count of each node by the dependencies it has there. -/
theorem lowered (closed : edges.Closed) (frontier : Frontier edges placed layer pending)
    (edge : Node × List Node) (member : edge ∈ edges) :
    waiting (placed ++ layer) edge.2 + edge.2.countP (isAmong layer) = waiting placed edge.2 := by
  obtain ⟨-, -, apart⟩ := List.nodup_append.mp frontier.once
  apply waiting_append
  intro dependency needed inLayer
  have known := closed.inside edge member dependency needed
  rw [among_iff closed (fun other otherIn => frontier.inside other (by simp [otherIn])) known]
    at inLayer
  rw [Bool.eq_false_iff, ne_eq,
    among_iff closed (fun other otherIn => frontier.inside other (by simp [otherIn])) known]
  intro inPlaced
  exact apart dependency inPlaced dependency inLayer rfl

theorem layer_distinct (closed : edges.Closed) (frontier : Frontier edges placed layer pending) :
    Distinct layer := by
  obtain ⟨-, once, -⟩ := List.nodup_append.mp frontier.once
  exact closed.distinct.of_nodup once fun node member => frontier.inside node (by simp [member])

theorem ready_inside {node : Node}
    (ready : node ∈ (pending.release (layer.flatMap edges.dependents)).2) :
    node ∈ edges.map Prod.fst := by
  have released := (Pending.release_sublist pending _).subset ready
  obtain ⟨dependency, -, dependent⟩ := List.mem_flatMap.mp released
  exact edges.mem_dependents dependency node dependent

/-- A node becomes ready at most once, and only if the layer serves the last of its needs. -/
theorem countP_ready (closed : edges.Closed) (frontier : Frontier edges placed layer pending)
    (edge : Node × List Node) (member : edge ∈ edges) :
    (pending.release (layer.flatMap edges.dependents)).2.countP
        (·.position == edge.1.position) =
      if 0 < waiting placed edge.2 ∧ waiting (placed ++ layer) edge.2 = 0 then 1 else 0 := by
  have served :=
    edges.countP_layer closed.distinct layer (frontier.layer_distinct closed) edge member
  have needs := frontier.lowered closed edge member
  have count := frontier.counts edge member
  rw [Pending.release_ready _ _ _ (by omega), served, count]
  by_cases last : 0 < waiting placed edge.2 ∧ waiting (placed ++ layer) edge.2 = 0
  · rw [if_pos last, if_pos (by omega)]
  · rw [if_neg last, if_neg (by omega)]

/-- Those become ready that have a place nowhere and wait for nothing any more. -/
theorem mem_ready_iff (closed : edges.Closed) (frontier : Frontier edges placed layer pending)
    (edge : Node × List Node) (member : edge ∈ edges) :
    edge.1 ∈ (pending.release (layer.flatMap edges.dependents)).2 ↔
      edge.1 ∉ placed ++ layer ∧ waiting (placed ++ layer) edge.2 = 0 := by
  have counted := frontier.countP_ready closed edge member
  have needs := frontier.lowered closed edge member
  have nodeIn : edge.1 ∈ edges.map Prod.fst := List.mem_map_of_mem member
  constructor
  · intro ready
    have positive : 0 < (pending.release (layer.flatMap edges.dependents)).2.countP
        (·.position == edge.1.position) :=
      List.countP_pos_iff.mpr ⟨edge.1, ready, by simp⟩
    rw [counted] at positive
    obtain ⟨waits, done⟩ : 0 < waiting placed edge.2 ∧ waiting (placed ++ layer) edge.2 = 0 := by
      by_contra never
      rw [if_neg never] at positive
      exact Nat.lt_irrefl 0 positive
    refine ⟨fun present => ?_, done⟩
    rcases List.mem_append.mp present with inPlaced | inLayer
    · have := frontier.served edge member inPlaced
      omega
    · have := (frontier.front edge member).mp inLayer
      omega
  · rintro ⟨absent, done⟩
    rw [List.mem_append, not_or] at absent
    have waits : 0 < waiting placed edge.2 := by
      by_contra never
      exact absent.2 ((frontier.front edge member).mpr ⟨absent.1, by omega⟩)
    rw [if_pos ⟨waits, done⟩] at counted
    obtain ⟨node, ready, same⟩ := List.countP_pos_iff.mp (counted ▸ Nat.zero_lt_one)
    rw [← closed.distinct.eq_of_position (ready_inside ready) nodeIn (by simpa using same)]
    exact ready

theorem ready_distinct (closed : edges.Closed) (frontier : Frontier edges placed layer pending) :
    Distinct (pending.release (layer.flatMap edges.dependents)).2 := by
  rw [Distinct, List.nodup_iff_count_le_one]
  intro position
  by_cases present :
      position ∈ (pending.release (layer.flatMap edges.dependents)).2.map Node.position
  · obtain ⟨node, ready, rfl⟩ := List.mem_map.mp present
    obtain ⟨edge, member, rfl⟩ := List.mem_map.mp (ready_inside ready)
    have counted := frontier.countP_ready closed edge member
    rw [List.count_eq_countP, List.countP_map]
    change (pending.release (layer.flatMap edges.dependents)).2.countP
      (·.position == edge.1.position) ≤ 1
    rw [counted]
    split <;> omega
  · rw [List.count_eq_zero_of_not_mem present]
    exact Nat.zero_le 1

/-- Placing the layer leads to the next frontier. -/
theorem step (closed : edges.Closed) (frontier : Frontier edges placed layer pending) :
    Frontier edges (placed ++ layer)
      (sortByPosition (pending.release (layer.flatMap edges.dependents)).2)
      (pending.release (layer.flatMap edges.dependents)).1 := by
  have sorted := List.mergeSort_perm (pending.release (layer.flatMap edges.dependents)).2
    fun first second => first.position ≤ second.position
  have mem_sorted (node : Node) :
      node ∈ sortByPosition (pending.release (layer.flatMap edges.dependents)).2 ↔
        node ∈ (pending.release (layer.flatMap edges.dependents)).2 := sorted.mem_iff
  refine ⟨?_, ?_, ?_, ?_, ?_⟩
  · intro edge member
    have needs := frontier.lowered closed edge member
    rw [Pending.release_count, frontier.counts edge member,
      edges.countP_layer closed.distinct layer (frontier.layer_distinct closed) edge member]
    omega
  · intro edge member
    rw [mem_sorted, frontier.mem_ready_iff closed edge member]
  · intro edge member present
    have needs := frontier.lowered closed edge member
    rcases List.mem_append.mp present with inPlaced | inLayer
    · have := frontier.served edge member inPlaced
      omega
    · have := (frontier.front edge member).mp inLayer
      omega
  · intro node member
    rcases List.mem_append.mp member with earlier | ready
    · exact frontier.inside node earlier
    · exact ready_inside ((mem_sorted node).mp ready)
  · refine List.nodup_append.mpr ⟨frontier.once,
      sorted.nodup_iff.mpr (frontier.ready_distinct closed).nodup, ?_⟩
    intro first earlier second later same
    subst same
    obtain ⟨edge, member, rfl⟩ := List.mem_map.mp (ready_inside ((mem_sorted first).mp later))
    exact ((frontier.mem_ready_iff closed edge member).mp ((mem_sorted _).mp later)).1 earlier

/-- With every node placed there is no further layer. -/
theorem layer_nil (frontier : Frontier edges placed layer pending)
    (full : edges.length ≤ 0 + placed.length) : layer = [] := by
  have bounded : (placed ++ layer).length ≤ (edges.map Prod.fst).length :=
    (List.subperm_of_subset frontier.once frontier.inside).length_le
  apply List.eq_nil_of_length_eq_zero
  simp only [List.length_append, List.length_map] at bounded
  omega

/-- The layers end at a frontier with nothing left to place, and what they place is arranged. -/
theorem layers (closed : edges.Closed) (frontier : Frontier edges placed layer pending)
    (fuel : Nat) (room : edges.length ≤ fuel + placed.length) :
    Frontier edges (placed ++ (edges.layers fuel layer pending).1) []
        (edges.layers fuel layer pending).2 ∧
      edges.Arranged placed (edges.layers fuel layer pending).1 := by
  induction fuel generalizing placed layer pending with
  | zero =>
      obtain rfl := frontier.layer_nil room
      simpa [Edges.layers, Edges.Arranged] using frontier
  | succ fuel ih =>
      cases layer with
      | nil => simpa [Edges.layers, Edges.Arranged] using frontier
      | cons node rest =>
          obtain ⟨final, arranged⟩ := ih (frontier.step closed) (by
            simp only [List.length_append, List.length_cons]
            omega)
          rw [Edges.layers_cons]
          rw [List.append_assoc] at final
          exact ⟨final, arranged.layer fun edge member inLayer =>
            ((frontier.front edge member).mp inLayer).2⟩

end Frontier

end PluginHost.Graph
