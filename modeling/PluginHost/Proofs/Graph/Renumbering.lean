import PluginHost.Proofs.Graph.Layers
import Mathlib.Order.Monotone.Basic

/-
This file gives the nodes of a graph other positions and keeps their order. A validation comes to
the same result, since positions only tell nodes apart and put them in order.
-/

namespace PluginHost

def Node.renumber (number : Nat → Nat) (node : Node) : Node where
  position := number node.position
  descriptor := node.descriptor

namespace Graph

def renumber (number : Nat → Nat) (graph : Graph) : Graph :=
  { graph with nodes := graph.nodes.map (Node.renumber number) }

variable {graph : Graph} {number : Nat → Nat} {live : List Node} {node : Node}

theorem holder?_renumber (name : String) :
    (graph.renumber number).holder? name = (graph.holder? name).map (Node.renumber number) := by
  rw [holder?, holder?, renumber, List.find?_map, List.find?_map, Option.map_or]
  rfl

theorem sharesName_renumber :
    (graph.renumber number).sharesName (node.renumber number) = graph.sharesName node := by
  rw [sharesName, sharesName, renumber, List.filter_map, List.length_map]
  rfl

theorem candidates_renumber :
    (graph.renumber number).candidates = graph.candidates.map (Node.renumber number) := by
  rw [candidates, candidates, renumber, List.filter_map]
  rfl

section Rising

variable (rising : StrictMono number)
include rising

theorem position_renumber (first second : Node) :
    ((first.renumber number).position == (second.renumber number).position) =
      (first.position == second.position) := by
  rw [Bool.eq_iff_iff, beq_iff_eq, beq_iff_eq]
  exact rising.injective.eq_iff

theorem isAmong_renumber :
    isAmong (live.map (Node.renumber number)) (node.renumber number) = isAmong live node := by
  rw [isAmong, isAmong, List.any_map]
  simp only [Function.comp_def, position_renumber rising]

theorem without_renumber :
    without (live.map (Node.renumber number)) (node.renumber number) =
      (without live node).map (Node.renumber number) := by
  rw [without, without, List.filter_map]
  simp only [Function.comp_def, bne, position_renumber rising]

theorem wrongField?_renumber (field : FieldInjection) :
    (graph.renumber number).wrongField? (live.map (Node.renumber number)) (node.renumber number)
      field = graph.wrongField? live node field := by
  rw [wrongField?, wrongField?, holder?_renumber]
  cases graph.holder? field.provider with
  | none => rfl
  | some holder =>
      simp only [Option.map_some, position_renumber rising, isAmong_renumber rising]
      rfl

theorem wrongDependency?_renumber :
    (graph.renumber number).wrongDependency? (live.map (Node.renumber number))
      (node.renumber number) = graph.wrongDependency? live node := by
  rw [wrongDependency?, wrongDependency?]
  congr 1
  funext field
  exact wrongField?_renumber rising field

theorem sweep_renumber (visited : List Node) :
    (graph.renumber number).sweep (visited.map (Node.renumber number))
        (live.map (Node.renumber number)) =
      ((graph.sweep visited live).1.map (Node.renumber number),
        (graph.sweep visited live).2.map (Prod.map (Node.renumber number) id)) := by
  induction visited generalizing live with
  | nil => rfl
  | cons node rest ih =>
      rw [List.map_cons, sweep, sweep, wrongDependency?_renumber rising]
      cases graph.wrongDependency? live node with
      | none => exact ih
      | some cause =>
          dsimp only
          rw [without_renumber rising, ih]
          rfl

theorem sortByPosition_renumber (nodes : List Node) :
    sortByPosition (nodes.map (Node.renumber number)) =
      (sortByPosition nodes).map (Node.renumber number) := by
  refine (List.map_mergeSort fun first _ second _ => ?_).symm
  rw [decide_eq_decide]
  exact rising.le_iff_le.symm

theorem dependencies_renumber :
    (graph.renumber number).dependencies (live.map (Node.renumber number))
        (node.renumber number) =
      (graph.dependencies live node).map (Node.renumber number) := by
  rw [dependencies, dependencies, dependenciesBy, dependenciesBy, List.map_filterMap]
  congr 1
  funext field
  rw [holder?_renumber]
  cases graph.holder? field.provider with
  | none => rfl
  | some holder =>
      simp only [Option.map_some, Option.filter_some, isAmong_renumber rising]
      cases isAmong live holder <;> rfl

namespace Pending

/-- The same counts for nodes at other positions. -/
def renumber (number : Nat → Nat) (pending : Pending) : Pending :=
  pending.map (Prod.map (Node.renumber number) id)

theorem count_renumber (pending : Pending) (node : Node) :
    (pending.renumber number).count (node.renumber number).position =
      pending.count node.position := by
  rw [count, count, renumber, List.find?_map, Option.map_map]
  simp only [Function.comp_def, Prod.map_fst, position_renumber rising]
  rfl

theorem lower_renumber (pending : Pending) (node : Node) :
    (pending.renumber number).lower (node.renumber number).position =
      (pending.lower node.position).renumber number := by
  rw [lower, lower, renumber, renumber, List.map_map, List.map_map]
  congr 1
  funext entry
  simp only [Function.comp_apply, Prod.map_fst, Prod.map_snd, position_renumber rising]
  split <;> rfl

theorem release_renumber (pending : Pending) (nodes : List Node) :
    (pending.renumber number).release (nodes.map (Node.renumber number)) =
      ((pending.release nodes).1.renumber number,
        (pending.release nodes).2.map (Node.renumber number)) := by
  induction nodes generalizing pending with
  | nil => rfl
  | cons node rest ih =>
      rw [List.map_cons, release, release, lower_renumber rising, ih, count_renumber rising]
      dsimp only
      split <;> rfl

end Pending

namespace Edges

/-- The same dependencies for nodes at other positions. -/
def renumber (number : Nat → Nat) (edges : Edges) : Edges :=
  edges.map (Prod.map (Node.renumber number) (List.map (Node.renumber number)))

theorem dependents_renumber (edges : Edges) (dependency : Node) :
    (edges.renumber number).dependents (dependency.renumber number) =
      (edges.dependents dependency).map (Node.renumber number) := by
  rw [dependents, dependents, renumber, List.flatMap_map, List.map_flatMap]
  congr 1
  funext edge
  rw [Prod.map_snd, List.filter_map, List.map_map, List.map_map]
  simp only [Function.comp_def, position_renumber rising]
  rfl

theorem flatMap_dependents_renumber (edges : Edges) (layer : List Node) :
    (layer.map (Node.renumber number)).flatMap (edges.renumber number).dependents =
      (layer.flatMap edges.dependents).map (Node.renumber number) := by
  rw [List.flatMap_map, List.map_flatMap]
  congr 1
  funext dependency
  exact dependents_renumber rising edges dependency

theorem layers_renumber (edges : Edges) (fuel : Nat) (layer : List Node) (pending : Pending) :
    (edges.renumber number).layers fuel (layer.map (Node.renumber number))
        (pending.renumber number) =
      ((edges.layers fuel layer pending).1.map (Node.renumber number),
        (edges.layers fuel layer pending).2.renumber number) := by
  induction fuel generalizing layer pending with
  | zero => rfl
  | succ fuel ih =>
      cases layer with
      | nil => rfl
      | cons node rest =>
          have released := Pending.release_renumber rising pending
            ((node :: rest).flatMap edges.dependents)
          rw [← flatMap_dependents_renumber rising, List.map_cons] at released
          rw [List.map_cons, layers_cons, layers_cons]
          simp only [released, sortByPosition_renumber rising, ih, List.map_append, List.map_cons]

end Edges

theorem edges_renumber :
    (graph.renumber number).edges (live.map (Node.renumber number)) =
      (graph.edges live).renumber number := by
  rw [edges, edges, Edges.among, Edges.among, Edges.renumber, List.map_map, List.map_map]
  congr 1
  funext node
  exact congrArg (Prod.mk _) (dependencies_renumber rising)

theorem Edges.arrange_renumber (edges : Edges) :
    (edges.renumber number).arrange =
      (edges.arrange.1.map (Node.renumber number), edges.arrange.2.map (Node.renumber number)) := by
  have pending : (edges.renumber number).pending = edges.pending.renumber number := by
    simp [Edges.renumber, Edges.pending, Pending.renumber, Function.comp_def]
  have nodes : (edges.renumber number).map Prod.fst =
      (edges.map Prod.fst).map (Node.renumber number) := by
    simp [Edges.renumber, Function.comp_def]
  rw [arrange, arrange]
  simp only [pending, nodes, List.filter_map, Function.comp_def, Pending.count_renumber rising,
    List.length_map, Edges.layers_renumber rising]

theorem dependencyOrder_renumber :
    (graph.renumber number).dependencyOrder (live.map (Node.renumber number)) =
      ((graph.dependencyOrder live).1.map (Node.renumber number),
        (graph.dependencyOrder live).2.map (Node.renumber number)) := by
  rw [dependencyOrder, edges_renumber rising, Edges.arrange_renumber rising]
  rfl

end Rising

/-- The same outcome for nodes at other positions. -/
def Reduction.renumber (number : Nat → Nat) (reduction : Reduction) : Reduction where
  live := reduction.live.map (Node.renumber number)
  found := reduction.found.map (Prod.map (Node.renumber number) id)
  order := reduction.order.map (Node.renumber number)

theorem turn_renumber (rising : StrictMono number) :
    (graph.renumber number).turn (live.map (Node.renumber number)) =
      (graph.turn live).renumber number := by
  rw [turn, turn]
  simp only [sweep_renumber rising, dependencyOrder_renumber rising, Reduction.renumber,
    List.filter_map, Function.comp_def, isAmong_renumber rising, List.map_append, List.map_map,
    Prod.map_apply, id_eq]

theorem reduce_of_fewer (fewer : (graph.turn live).live.length < live.length) :
    graph.reduce live = { graph.reduce (graph.turn live).live with
      found := (graph.turn live).found ++ (graph.reduce (graph.turn live).live).found } := by
  rw [reduce, if_pos fewer]

theorem reduce_of_same (same : ¬ (graph.turn live).live.length < live.length) :
    graph.reduce live = graph.turn live := by
  rw [reduce, if_neg same]

theorem reduce_renumber (rising : StrictMono number) :
    (graph.renumber number).reduce (live.map (Node.renumber number)) =
      (graph.reduce live).renumber number := by
  have measured (live : List Node) :
      ((graph.turn live).renumber number).live.length <
        (live.map (Node.renumber number)).length ↔
          (graph.turn live).live.length < live.length := by
    rw [Reduction.renumber, List.length_map, List.length_map]
  induction live using Graph.reduce.induct graph with
  | case1 live taken fewer ih =>
      rw [reduce_of_fewer fewer, reduce_of_fewer, turn_renumber rising]
      · have rest : (graph.renumber number).reduce ((graph.turn live).renumber number).live =
            (graph.reduce (graph.turn live).live).renumber number := ih
        rw [rest]
        simp only [Reduction.renumber, List.map_append]
      · rw [turn_renumber rising]
        exact (measured live).mpr fewer
  | case2 live taken same =>
      rw [reduce_of_same same, reduce_of_same, turn_renumber rising]
      rw [turn_renumber rising]
      exact fun fewer => same ((measured live).mp fewer)

theorem reduction_renumber (rising : StrictMono number) :
    (graph.renumber number).reduction = graph.reduction.renumber number := by
  rw [reduction, reduction]
  simp only [candidates_renumber, List.filter_map, Function.comp_def, sharesName_renumber,
    reduce_renumber rising, Reduction.renumber, List.map_append, List.map_map, Prod.map_apply,
    id_eq]

/-- Positions leave no trace in a validation but the order. -/
theorem validate_renumber (rising : StrictMono number) :
    (graph.renumber number).validate = graph.validate := by
  rw [validate, validate, reduction_renumber rising]
  simp only [Reduction.renumber, List.map_map]
  rfl

end Graph

end PluginHost
