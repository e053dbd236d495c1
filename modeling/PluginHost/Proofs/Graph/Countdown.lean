import PluginHost.Proofs.Graph.Order

/-
This file repeats the countdown with every step checked. The checked run stops where one would be
taken from a count of zero, and where a layer is left when the rounds are used up. It never stops:
no layer releases a node more often than the node has dependencies without a place.
-/

namespace PluginHost.Graph

namespace Pending

/-- Stops if the count is already zero. -/
def lower? (pending : Pending) (position : Nat) : Option Pending :=
  if pending.count position = 0 then none else some (pending.lower position)

def release? (pending : Pending) : List Node → Option (Pending × List Node)
  | [] => some (pending, [])
  | node :: rest => do
    let lowered ← pending.lower? node.position
    let (final, ready) ← lowered.release? rest
    if lowered.count node.position = 0 then some (final, node :: ready) else some (final, ready)

/-- The counts have room for all the nodes that are released. -/
theorem release?_eq (pending : Pending) (released : List Node)
    (room : ∀ node ∈ released,
      released.countP (·.position == node.position) ≤ pending.count node.position) :
    pending.release? released = some (pending.release released) := by
  induction released generalizing pending with
  | nil => rfl
  | cons node rest ih =>
      have positive : pending.count node.position ≠ 0 := by
        have enough := room node List.mem_cons_self
        rw [List.countP_cons, beq_self_eq_true, if_pos rfl] at enough
        omega
      have lowered : pending.lower? node.position = some (pending.lower node.position) :=
        if_neg positive
      have others : ∀ other ∈ rest, rest.countP (·.position == other.position) ≤
          (pending.lower node.position).count other.position := by
        intro other later
        have enough := room other (List.mem_cons_of_mem node later)
        rw [List.countP_cons] at enough
        rw [count_lower]
        by_cases same : other.position = node.position
        · rw [same, beq_self_eq_true, if_pos rfl] at enough
          rw [if_pos same, same]
          omega
        · rw [if_neg same]
          omega
      rw [release?, lowered, Option.bind_eq_bind, Option.bind_some, ih _ others, release_cons]
      dsimp only [Option.bind_eq_bind, Option.bind_some]
      split <;> rfl

end Pending

namespace Edges

/-- Stops if a layer is left without a round to place it. -/
def layers? (edges : Edges) : Nat → List Node → Pending → Option (List Node × Pending)
  | _, [], pending => some ([], pending)
  | 0, _ :: _, _ => none
  | fuel + 1, node :: rest, pending => do
    let (lowered, ready) ← pending.release? ((node :: rest).flatMap edges.dependents)
    let (order, final) ← edges.layers? fuel (sortByPosition ready) lowered
    some (node :: rest ++ order, final)

def arrange? (edges : Edges) : Option (List Node × List Node) := do
  let (order, final) ← edges.layers? (edges.map Prod.fst).length edges.first edges.pending
  some (order, (edges.map Prod.fst).filter fun node => final.count node.position != 0)

end Edges

namespace Frontier

variable {edges : Edges} {placed layer : List Node} {pending : Pending}

/-- Each release of the layer finds a positive count. -/
theorem release?_eq (closed : edges.Closed) (frontier : Frontier edges placed layer pending) :
    pending.release? (layer.flatMap edges.dependents) =
      some (pending.release (layer.flatMap edges.dependents)) := by
  apply Pending.release?_eq
  intro node released
  obtain ⟨dependency, -, dependent⟩ := List.mem_flatMap.mp released
  obtain ⟨edge, member, rfl⟩ :=
    List.mem_map.mp (edges.mem_dependents dependency node dependent)
  have needs := frontier.lowered closed edge member
  rw [frontier.counts edge member,
    edges.countP_layer closed.distinct layer (frontier.layer_distinct closed) edge member]
  omega

theorem layers?_eq (closed : edges.Closed) (frontier : Frontier edges placed layer pending)
    (fuel : Nat) (room : edges.length ≤ fuel + placed.length) :
    edges.layers? fuel layer pending = some (edges.layers fuel layer pending) := by
  induction fuel generalizing placed layer pending with
  | zero =>
      rw [frontier.layer_nil room]
      rfl
  | succ fuel ih =>
      cases layer with
      | nil => rfl
      | cons node rest =>
          have next := ih (frontier.step closed) (by
            simp only [List.length_append, List.length_cons]
            omega)
          rw [Edges.layers?, frontier.release?_eq closed, Edges.layers_cons]
          dsimp only [Option.bind_eq_bind, Option.bind_some]
          rw [next]
          rfl

end Frontier

/-- The checked run gives what the run itself gives, so no check ever fails. -/
theorem Edges.Closed.arrange?_eq {edges : Edges} (closed : edges.Closed) :
    edges.arrange? = some edges.arrange := by
  rw [arrange?, closed.first_frontier.layers?_eq closed _ (by simp)]
  rfl

end PluginHost.Graph
