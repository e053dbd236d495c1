import PluginHost.Graph.Basic

/-
This file puts live nodes into an order in which dependencies come first. Each node counts its
dependencies that are not placed yet; the nodes whose count is zero form the next layer. Nodes that
are on a cycle or depend on one keep a positive count.
-/

namespace PluginHost.Graph

/-- A live node with the number of its dependencies that are not placed yet. -/
abbrev Pending := List (Node × Nat)

namespace Pending

def count (pending : Pending) (position : Nat) : Nat :=
  ((pending.find? fun entry => entry.1.position == position).map Prod.snd).getD 0

def lower (pending : Pending) (position : Nat) : Pending :=
  pending.map fun entry =>
    if entry.1.position == position then (entry.1, entry.2 - 1) else entry

/-- Places one dependency of each given node and collects the nodes that wait for none. -/
def release (pending : Pending) : List Node → Pending × List Node
  | [] => (pending, [])
  | node :: rest =>
    let lowered := pending.lower node.position
    let (final, ready) := lowered.release rest
    if lowered.count node.position = 0 then (final, node :: ready) else (final, ready)

end Pending

/-- Live nodes with the live nodes they depend on. -/
abbrev Edges := List (Node × List Node)

/-- The edges between live nodes when the fields resolve in the given way. -/
def Edges.among (resolve : String → Option Node) (live : List Node) : Edges :=
  live.map fun node => (node, dependenciesBy resolve live node)

def edges (graph : Graph) (live : List Node) : Edges := .among graph.holder? live

/-- At first each node waits for all of its dependencies. -/
def Edges.pending (edges : Edges) : Pending := edges.map fun edge => (edge.1, edge.2.length)

/-- A node stands in the list once for each of its fields that resolves to the dependency. -/
def Edges.dependents (edges : Edges) (dependency : Node) : List Node :=
  edges.flatMap fun edge =>
    (edge.2.filter fun other => other.position == dependency.position).map fun _ => edge.1

def sortByPosition (nodes : List Node) : List Node :=
  nodes.mergeSort fun first second => first.position ≤ second.position

/-- There are no more layers than live nodes. -/
def Edges.layers (edges : Edges) : Nat → List Node → Pending → List Node × Pending
  | 0, _, pending => ([], pending)
  | _, [], pending => ([], pending)
  | fuel + 1, layer, pending =>
    let (lowered, ready) := pending.release (layer.flatMap edges.dependents)
    let (order, final) := edges.layers fuel (sortByPosition ready) lowered
    (layer ++ order, final)

/-- The order, and the nodes that found no place in it. -/
def Edges.arrange (edges : Edges) : List Node × List Node :=
  let nodes := edges.map Prod.fst
  let first := nodes.filter fun node => edges.pending.count node.position == 0
  let (order, final) := edges.layers nodes.length first edges.pending
  (order, nodes.filter fun node => final.count node.position != 0)

def dependencyOrder (graph : Graph) (live : List Node) : List Node × List Node :=
  (graph.edges live).arrange

end PluginHost.Graph
