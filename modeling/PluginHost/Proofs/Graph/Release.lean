import PluginHost.Proofs.Graph.Node

/-
This file counts. It says how releasing a layer of nodes changes the number of dependencies for
which each node waits, and which nodes become ready by it.
-/

namespace PluginHost.Graph

namespace Pending

theorem count_cons (entry : Node × Nat) (rest : Pending) (position : Nat) :
    count (entry :: rest) position =
      if entry.1.position = position then entry.2 else count rest position := by
  by_cases here : entry.1.position = position
  · simp [count, here]
  · simp [count, here]

theorem count_lower (pending : Pending) (lowered position : Nat) :
    (pending.lower lowered).count position =
      if position = lowered then pending.count position - 1 else pending.count position := by
  induction pending with
  | nil => simp [lower, count]
  | cons entry rest ih =>
      have tail : count (rest.map fun entry =>
          if entry.1.position == lowered then (entry.1, entry.2 - 1) else entry) position =
        if position = lowered then count rest position - 1 else count rest position := ih
      rw [lower, List.map_cons, count_cons, tail, count_cons]
      by_cases target : entry.1.position = lowered
      · by_cases here : entry.1.position = position
        · simp [target, ← here]
        · have other : ¬ lowered = position := fun same => here (target.trans same)
          simp [target, other]
      · by_cases here : entry.1.position = position
        · have other : ¬ position = lowered := fun same => target (here.trans same)
          simp [here, other]
        · simp [target, here]

theorem release_cons (pending : Pending) (node : Node) (rest : List Node) :
    pending.release (node :: rest) =
      ((pending.lower node.position).release rest |>.1,
        if (pending.lower node.position).count node.position = 0 then
          node :: ((pending.lower node.position).release rest).2
        else ((pending.lower node.position).release rest).2) := by
  rw [release]
  dsimp only
  split <;> rfl

/-- Each release of a node takes one from its count. -/
theorem release_count (pending : Pending) (released : List Node) (position : Nat) :
    (pending.release released).1.count position =
      pending.count position - released.countP (·.position == position) := by
  induction released generalizing pending with
  | nil => simp [release]
  | cons node rest ih =>
      rw [release_cons, ih, count_lower, List.countP_cons]
      by_cases here : node.position = position
      · simp [here]
        omega
      · have other : ¬ position = node.position := fun same => here same.symm
        simp [here, other]

theorem release_sublist (pending : Pending) (released : List Node) :
    (pending.release released).2.Sublist released := by
  induction released generalizing pending with
  | nil => simp [release]
  | cons node rest ih =>
      rw [release_cons]
      split
      · exact (ih _).cons_cons node
      · exact (ih _).cons node

/-- A node becomes ready once, with the release that takes the last from its count. -/
theorem release_ready (pending : Pending) (released : List Node) (position : Nat)
    (enough : released.countP (·.position == position) ≤ pending.count position) :
    (pending.release released).2.countP (·.position == position) =
      if 0 < released.countP (·.position == position) ∧
          pending.count position = released.countP (·.position == position) then 1 else 0 := by
  induction released generalizing pending with
  | nil => simp [release]
  | cons node rest ih =>
      rw [List.countP_cons] at enough ⊢
      rw [release_cons]
      have lowered := count_lower pending node.position position
      by_cases here : node.position = position
      · subst here
        simp only [beq_self_eq_true, if_true] at enough lowered ⊢
        have tail := ih (pending.lower node.position) (by omega)
        rw [lowered] at tail ⊢
        by_cases last : pending.count node.position - 1 = 0
        · rw [if_pos last, List.countP_cons, tail]
          simp only [beq_self_eq_true, if_true]
          rw [if_neg (by omega), if_pos (by omega)]
        · rw [if_neg last, tail]
          by_cases met : pending.count node.position =
              rest.countP (·.position == node.position) + 1
          · rw [if_pos (by omega), if_pos (by omega)]
          · rw [if_neg (by omega), if_neg (by omega)]
      · have other : ¬ position = node.position := fun same => here same.symm
        have apart : (node.position == position) = false := by simpa using here
        rw [if_neg other] at lowered
        simp only [apart, Bool.false_eq_true, if_false, Nat.add_zero] at enough ⊢
        have tail := ih (pending.lower node.position) (by omega)
        rw [lowered] at tail
        split
        · rw [List.countP_cons, tail]
          simp [apart]
        · exact tail

end Pending

/-- How many of the dependencies are not placed yet. -/
def waiting (placed dependencies : List Node) : Nat :=
  dependencies.countP fun dependency => !isAmong placed dependency

theorem waiting_nil (dependencies : List Node) : waiting [] dependencies = dependencies.length := by
  simp [waiting, isAmong]

theorem waiting_eq_zero (placed dependencies : List Node) :
    waiting placed dependencies = 0 ↔
      ∀ dependency ∈ dependencies, isAmong placed dependency = true := by
  simp [waiting, List.countP_eq_zero]

/-- Placing a layer takes away those dependencies that are in it. -/
theorem waiting_append (placed layer dependencies : List Node)
    (apart : ∀ dependency ∈ dependencies, isAmong layer dependency = true →
      isAmong placed dependency = false) :
    waiting (placed ++ layer) dependencies + dependencies.countP (isAmong layer) =
      waiting placed dependencies := by
  induction dependencies with
  | nil => rfl
  | cons dependency rest ih =>
      have tail := ih fun other member => apart other (List.mem_cons_of_mem _ member)
      have head := apart dependency List.mem_cons_self
      simp only [waiting, List.countP_cons, isAmong_append] at tail ⊢
      cases inLayer : isAmong layer dependency with
      | false =>
          simp only [Bool.or_false, Bool.false_eq_true, if_false]
          omega
      | true =>
          simp only [Bool.or_true, Bool.not_true, head inLayer, Bool.not_false, if_true,
            Bool.false_eq_true, if_false]
          omega

/-- A node among distinct ones is either the first of them or among the others. -/
theorem countP_isAmong_cons (first : Node) (rest : List Node) (apart : Distinct (first :: rest))
    (nodes : List Node) :
    nodes.countP (isAmong (first :: rest)) =
      nodes.countP (·.position == first.position) + nodes.countP (isAmong rest) := by
  simp only [Distinct, List.map_cons, List.nodup_cons] at apart
  have exclusive (node : Node) (here : (node.position == first.position) = true) :
      isAmong rest node = false := by
    rw [isAmong, List.any_eq_false]
    intro later laterIn same
    apply apart.1
    rw [← beq_iff_eq.mp here, ← beq_iff_eq.mp same]
    exact List.mem_map_of_mem laterIn
  induction nodes with
  | nil => rfl
  | cons node others ih =>
      have unfolded : isAmong (first :: rest) node =
          (node.position == first.position || isAmong rest node) := by
        rw [isAmong, List.any_cons, Bool.beq_comm]
        rfl
      simp only [List.countP_cons, unfolded]
      cases here : (node.position == first.position) with
      | false =>
          simp only [Bool.false_or, Bool.false_eq_true, if_false]
          omega
      | true =>
          simp only [exclusive node here, Bool.or_false, Bool.false_eq_true, if_true, if_false]
          omega

/-- The nodes of the edges stand at distinct positions, and all dependencies are among them. -/
structure Edges.Closed (edges : Edges) : Prop where
  distinct : Distinct (edges.map Prod.fst)
  inside : ∀ edge ∈ edges, ∀ dependency ∈ edge.2, dependency ∈ edges.map Prod.fst

namespace Edges

theorem dependents_cons (edge : Node × List Node) (rest : Edges) (dependency : Node) :
    dependents (edge :: rest) dependency =
      (edge.2.filter fun other => other.position == dependency.position).map (fun _ => edge.1) ++
        rest.dependents dependency := by
  simp [dependents]

theorem mem_dependents (edges : Edges) (dependency node : Node)
    (member : node ∈ edges.dependents dependency) : node ∈ edges.map Prod.fst := by
  simp only [dependents, List.mem_flatMap, List.mem_map, List.mem_filter] at member
  obtain ⟨edge, edgeIn, other, -, same⟩ := member
  exact List.mem_map.mpr ⟨edge, edgeIn, same⟩

theorem countP_dependents_of_absent (edges : Edges) (dependency : Node) (position : Nat)
    (absent : position ∉ edges.map fun edge => edge.1.position) :
    (edges.dependents dependency).countP (·.position == position) = 0 := by
  rw [List.countP_eq_zero]
  intro node member same
  obtain ⟨edge, edgeIn, rfl⟩ := List.mem_map.mp (mem_dependents edges dependency node member)
  exact absent (List.mem_map.mpr ⟨edge, edgeIn, by simpa using same⟩)

/-- A node depends on another one as often as it is among its dependents. -/
theorem countP_dependents (edges : Edges) (distinct : Distinct (edges.map Prod.fst))
    (dependency : Node) (edge : Node × List Node) (member : edge ∈ edges) :
    (edges.dependents dependency).countP (·.position == edge.1.position) =
      edge.2.countP (·.position == dependency.position) := by
  induction edges with
  | nil => cases member
  | cons head rest ih =>
      simp only [Distinct, List.map_cons, List.nodup_cons, List.map_map] at distinct
      rw [dependents_cons, List.countP_append, List.countP_map]
      rcases List.mem_cons.mp member with rfl | later
      · rw [countP_dependents_of_absent rest dependency _ distinct.1]
        simp [Function.comp_def, List.countP_eq_length_filter]
      · have different : ¬ head.1.position = edge.1.position := by
          intro same
          exact distinct.1 (List.mem_map.mpr ⟨edge, later, same.symm⟩)
        rw [ih (by simpa [Distinct] using distinct.2) later]
        simp [Function.comp_def, different]

/-- A layer releases a node once for each dependency that is in the layer. -/
theorem countP_layer (edges : Edges) (distinct : Distinct (edges.map Prod.fst))
    (layer : List Node) (apart : Distinct layer) (edge : Node × List Node)
    (member : edge ∈ edges) :
    (layer.flatMap edges.dependents).countP (·.position == edge.1.position) =
      edge.2.countP (isAmong layer) := by
  induction layer with
  | nil =>
      have none : edge.2.countP (isAmong []) = 0 := by simp [List.countP_eq_zero, isAmong]
      rw [none]
      rfl
  | cons dependency rest ih =>
      have restApart := apart.sublist (List.sublist_cons_self dependency rest)
      rw [List.flatMap_cons, List.countP_append, countP_dependents edges distinct _ edge member,
        ih restApart, countP_isAmong_cons dependency rest apart]

end Edges

end PluginHost.Graph
