import PluginHost.Proofs.Graph.Causes
import PluginHost.Proofs.Graph.Countdown

/-
This file says exactly which nodes an order leaves out: those from which the edges lead to a cycle.
A node on no such way stands behind everything that it needs. The last theorem says so for any
positions that the names mean and any positions that are live.
-/

namespace PluginHost.Graph

open Relation

namespace Edges

/-- The second node is a dependency of the first one. -/
def Needs (edges : Edges) (node dependency : Node) : Prop :=
  ∃ edge ∈ edges, edge.1 = node ∧ dependency ∈ edge.2

/-- The edges lead from the node to one that needs itself, at once or around a cycle. -/
def MeetsCycle (edges : Edges) (node : Node) : Prop :=
  ∃ entrance, ReflTransGen edges.Needs node entrance ∧ TransGen edges.Needs entrance entrance

variable {edges : Edges} {seen order stuck : List Node} {node dependency : Node}

namespace Arranged

/-- What a node needs is seen, or has its place before it. -/
theorem behind (arranged : edges.Arranged seen order) {earlier later : List Node}
    (split : order = earlier ++ node :: later) (needs : edges.Needs node dependency) :
    isAmong (seen ++ earlier) dependency = true := by
  induction earlier generalizing seen order with
  | nil =>
      subst split
      obtain ⟨edge, member, same, needed⟩ := needs
      rw [List.append_nil]
      exact arranged.1 edge member same dependency needed
  | cons head earlier ih =>
      subst split
      have known := ih arranged.2 rfl
      rwa [List.append_assoc, List.singleton_append] at known

/-- Below a placed node there is no endless chain. -/
theorem acc (closed : edges.Closed) (arranged : edges.Arranged seen order)
    (within : ∀ other ∈ seen, other ∈ edges.map Prod.fst)
    (grounded : ∀ other ∈ seen, Acc (fun next here => edges.Needs here next) other)
    (inside : ∀ other ∈ order, other ∈ edges.map Prod.fst) (placed : node ∈ order) :
    Acc (fun next here => edges.Needs here next) node := by
  induction order generalizing seen with
  | nil => cases placed
  | cons head rest ih =>
      have first : Acc (fun next here => edges.Needs here next) head := by
        refine ⟨_, fun dependency needs => grounded dependency ?_⟩
        obtain ⟨edge, member, same, needed⟩ := needs
        have among := arranged.1 edge member same dependency needed
        exact (isAmong_iff closed.distinct within
          (closed.inside edge member dependency needed)).mp among
      rcases List.mem_cons.mp placed with rfl | later
      · exact first
      · refine ih arranged.2 ?_ ?_ (fun other otherIn => inside other (.tail head otherIn)) later
        · intro other otherIn
          rcases List.mem_append.mp otherIn with before | here
          · exact within other before
          · rw [List.mem_singleton.mp here]
            exact inside head List.mem_cons_self
        · intro other otherIn
          rcases List.mem_append.mp otherIn with before | here
          · exact grounded other before
          · rw [List.mem_singleton.mp here]
            exact first

end Arranged

namespace Ordering

variable (ordering : edges.Ordering order stuck)
include ordering

theorem behind (closed : edges.Closed) {earlier later : List Node}
    (split : order = earlier ++ node :: later) (needs : edges.Needs node dependency) :
    dependency ∈ earlier := by
  have among := ordering.arranged.behind split needs
  obtain ⟨edge, member, -, needed⟩ := needs
  have within : ∀ other ∈ earlier, other ∈ edges.map Prod.fst := by
    intro other before
    exact ordering.inside other (split ▸ List.mem_append_left _ before)
  exact (isAmong_iff closed.distinct within (closed.inside edge member dependency needed)).mp among

/-- A node is left out exactly if the edges lead from it to a cycle. -/
theorem stuck_iff (closed : edges.Closed) (member : node ∈ edges.map Prod.fst) :
    node ∈ stuck ↔ edges.MeetsCycle node := by
  constructor
  · intro isStuck
    refine exists_loop (fun other otherStuck => ?_) isStuck
    obtain ⟨edge, edgeIn, rfl⟩ := List.mem_map.mp ((ordering.mem_stuck other).mp otherStuck).1
    obtain ⟨dependency, needed, dependencyStuck⟩ := ordering.blocked edge edgeIn otherStuck
    exact ⟨dependency, dependencyStuck, edge, edgeIn, rfl, needed⟩
  · rintro ⟨entrance, reached, cycle⟩
    refine (ordering.mem_stuck node).mpr ⟨member, fun placed => ?_⟩
    have rooted := ordering.arranged.acc closed (by simp) (by simp) ordering.inside placed
    have below : Acc (fun next here => edges.Needs here next) entrance := by
      clear cycle
      induction reached with
      | refl => exact rooted
      | tail _ needs ih => exact ih.inv needs
    exact not_transGen_self below cycle

/-- No node is placed and left out, and none is neither. -/
theorem perm (closed : edges.Closed) (once : stuck.Nodup) :
    (order ++ stuck).Perm (edges.map Prod.fst) := by
  have apart : (order ++ stuck).Nodup := by
    refine List.nodup_append.mpr ⟨ordering.once, once, ?_⟩
    rintro first placed second isStuck rfl
    exact ((ordering.mem_stuck first).mp isStuck).2 placed
  rw [List.perm_ext_iff_of_nodup apart closed.distinct.nodup]
  intro other
  rw [List.mem_append, ordering.mem_stuck]
  constructor
  · rintro (placed | ⟨member, -⟩)
    · exact ordering.inside other placed
    · exact member
  · intro member
    by_cases placed : other ∈ order
    · exact .inl placed
    · exact .inr ⟨member, placed⟩

end Ordering

end Edges

section Positions

variable (providers : List Descriptor) (byName : String → Option (Fin providers.length))
  (alive : Fin providers.length → Bool)

def nodeAt (position : Fin providers.length) : Node := ⟨position, providers[position]⟩

/-- The live positions in ascending order. -/
def liveAt : List Node := ((List.finRange providers.length).filter alive).map (nodeAt providers)

/-- The edges between live positions, where each name means the position it is mapped to. -/
def edgesAt : Edges :=
  .among (fun name => (byName name).map (nodeAt providers)) (liveAt providers alive)

/-- A field of the first live position resolves to the second one, which is live as well. -/
def Leads (first second : Fin providers.length) : Prop :=
  alive first = true ∧ alive second = true ∧
    ∃ field ∈ providers[first].fields, byName field.provider = some second

theorem nodeAt_injective : Function.Injective (nodeAt providers) := by
  intro first second same
  exact Fin.ext (congrArg Node.position same)

variable {providers byName alive}

theorem liveAt_distinct : Distinct (liveAt providers alive) := by
  rw [Distinct, liveAt, List.map_map]
  exact ((List.nodup_finRange _).sublist List.filter_sublist).map Fin.val_injective

theorem nodeAt_mem_map {position : Fin providers.length}
    {positions : List (Fin providers.length)} :
    nodeAt providers position ∈ positions.map (nodeAt providers) ↔ position ∈ positions :=
  List.mem_map_of_injective (nodeAt_injective providers)

theorem nodeAt_mem_liveAt {position : Fin providers.length} :
    nodeAt providers position ∈ liveAt providers alive ↔ alive position = true := by
  rw [liveAt, nodeAt_mem_map, List.mem_filter]
  simp

theorem exists_nodeAt {node : Node} (member : node ∈ liveAt providers alive) :
    ∃ position, alive position = true ∧ nodeAt providers position = node := by
  obtain ⟨position, live, same⟩ := List.mem_map.mp member
  exact ⟨position, (List.mem_filter.mp live).2, same⟩

/-- Live nodes are those of positions. -/
theorem exists_positions {nodes : List Node}
    (live : ∀ node ∈ nodes, node ∈ liveAt providers alive) :
    ∃ positions : List (Fin providers.length), positions.map (nodeAt providers) = nodes := by
  have known : nodes ∈ Set.range (List.map (nodeAt providers)) := by
    rw [Set.range_list_map]
    intro node member
    obtain ⟨position, -, named⟩ := exists_nodeAt (live node member)
    exact ⟨position, named⟩
  exact known

theorem mem_dependenciesAt {first : Fin providers.length} {dependency : Node} :
    dependency ∈ dependenciesBy (fun name => (byName name).map (nodeAt providers))
        (liveAt providers alive) (nodeAt providers first) ↔
      ∃ second, nodeAt providers second = dependency ∧ alive second = true ∧
        ∃ field ∈ providers[first].fields, byName field.provider = some second := by
  have among (position : Fin providers.length) :
      isAmong (liveAt providers alive) (nodeAt providers position) = true ↔
        alive position = true := by
    simp [isAmong, liveAt, nodeAt, Fin.val_inj]
  simp only [dependenciesBy, List.mem_filterMap, Option.filter_eq_some_iff, Option.map_eq_some_iff]
  constructor
  · rintro ⟨field, fieldIn, ⟨second, resolved, rfl⟩, live⟩
    exact ⟨second, rfl, (among second).mp live, field, fieldIn, resolved⟩
  · rintro ⟨second, rfl, live, field, fieldIn, resolved⟩
    exact ⟨field, fieldIn, ⟨second, resolved, rfl⟩, (among second).mpr live⟩

theorem edgesAt_nodes : (edgesAt providers byName alive).map Prod.fst = liveAt providers alive :=
  Edges.among_nodes _ _

theorem edgesAt_closed : (edgesAt providers byName alive).Closed where
  distinct := by
    rw [edgesAt_nodes]
    exact liveAt_distinct
  inside edge member dependency needed := by
    obtain ⟨present, same⟩ := Edges.mem_among.mp member
    obtain ⟨first, -, named⟩ := exists_nodeAt present
    rw [same, ← named] at needed
    obtain ⟨second, rfl, live, -⟩ := mem_dependenciesAt.mp needed
    rw [edgesAt_nodes]
    exact nodeAt_mem_liveAt.mpr live

theorem needs_nodeAt {first : Fin providers.length} {dependency : Node} :
    (edgesAt providers byName alive).Needs (nodeAt providers first) dependency ↔
      ∃ second, nodeAt providers second = dependency ∧
        Leads providers byName alive first second := by
  constructor
  · rintro ⟨edge, member, same, needed⟩
    obtain ⟨present, dependencies⟩ := Edges.mem_among.mp member
    rw [dependencies, same] at needed
    rw [same] at present
    obtain ⟨second, named, live, resolved⟩ := mem_dependenciesAt.mp needed
    exact ⟨second, named, nodeAt_mem_liveAt.mp present, live, resolved⟩
  · rintro ⟨second, named, present, live, resolved⟩
    exact ⟨(nodeAt providers first, _), Edges.mem_among.mpr ⟨nodeAt_mem_liveAt.mpr present, rfl⟩,
      rfl, mem_dependenciesAt.mpr ⟨second, named, live, resolved⟩⟩

theorem transGen_nodeAt {first : Fin providers.length} {node : Node} :
    TransGen (edgesAt providers byName alive).Needs (nodeAt providers first) node ↔
      ∃ last, nodeAt providers last = node ∧
        TransGen (Leads providers byName alive) first last := by
  constructor
  · intro chain
    induction chain with
    | single needs =>
        obtain ⟨second, named, leads⟩ := needs_nodeAt.mp needs
        exact ⟨second, named, .single leads⟩
    | tail _ needs ih =>
        obtain ⟨middle, rfl, leading⟩ := ih
        obtain ⟨last, named, leads⟩ := needs_nodeAt.mp needs
        exact ⟨last, named, leading.tail leads⟩
  · rintro ⟨last, rfl, chain⟩
    exact chain.lift (nodeAt providers) fun _ second leads => needs_nodeAt.mpr ⟨second, rfl, leads⟩

theorem meetsCycle_nodeAt {position : Fin providers.length} :
    (edgesAt providers byName alive).MeetsCycle (nodeAt providers position) ↔
      ∃ entrance, ReflTransGen (Leads providers byName alive) position entrance ∧
        TransGen (Leads providers byName alive) entrance entrance := by
  have back (entrance : Fin providers.length)
      (cycle : TransGen (edgesAt providers byName alive).Needs (nodeAt providers entrance)
        (nodeAt providers entrance)) :
      TransGen (Leads providers byName alive) entrance entrance := by
    obtain ⟨last, named, around⟩ := transGen_nodeAt.mp cycle
    rwa [nodeAt_injective providers named] at around
  constructor
  · rintro ⟨node, reached, cycle⟩
    rcases reflTransGen_iff_eq_or_transGen.mp reached with rfl | reached
    · exact ⟨position, .refl, back position cycle⟩
    · obtain ⟨entrance, rfl, chain⟩ := transGen_nodeAt.mp reached
      exact ⟨entrance, chain.to_reflTransGen, back entrance cycle⟩
  · rintro ⟨entrance, chain, cycle⟩
    have step (first second : Fin providers.length)
        (leads : Leads providers byName alive first second) :
        (edgesAt providers byName alive).Needs (nodeAt providers first)
          (nodeAt providers second) := needs_nodeAt.mpr ⟨second, rfl, leads⟩
    exact ⟨nodeAt providers entrance, chain.lift _ step, cycle.lift _ step⟩

variable (providers byName alive)

/-- Whatever the names mean and whoever is live, the order and the nodes left out are the live
positions, each of them once. A position stands behind those that its fields resolve to, and it is
left out exactly if its fields lead to a cycle. No count is ever lowered below zero. -/
theorem arrange_exact :
    ∃ order stuck : List (Fin providers.length),
      (edgesAt providers byName alive).arrange =
        (order.map (nodeAt providers), stuck.map (nodeAt providers)) ∧
      (edgesAt providers byName alive).arrange? =
        some (order.map (nodeAt providers), stuck.map (nodeAt providers)) ∧
      order.Nodup ∧ stuck.Nodup ∧ order.Disjoint stuck ∧
      (∀ position, position ∈ order ∨ position ∈ stuck ↔ alive position = true) ∧
      (∀ earlier position later, order = earlier ++ position :: later →
        ∀ dependency, Leads providers byName alive position dependency → dependency ∈ earlier) ∧
      ∀ position, alive position = true → (position ∈ stuck ↔
        ∃ entrance, ReflTransGen (Leads providers byName alive) position entrance ∧
          TransGen (Leads providers byName alive) entrance entrance) := by
  have closed : (edgesAt providers byName alive).Closed := edgesAt_closed
  have ordering := closed.arrange_ordering
  have stuckOnce := closed.distinct.nodup.sublist
    (edgesAt providers byName alive).stuck_sublist
  have perm := ordering.perm closed stuckOnce
  have counted := closed.arrange?_eq
  rw [edgesAt_nodes] at perm
  obtain ⟨order, orderNodes⟩ := exists_positions fun node member =>
    perm.mem_iff.mp (List.mem_append_left _ member)
  obtain ⟨stuck, stuckNodes⟩ := exists_positions fun node member =>
    perm.mem_iff.mp (List.mem_append_right _ member)
  rw [← orderNodes, ← stuckNodes] at ordering perm
  have once : (order ++ stuck).Nodup := by
    have nodes := perm.nodup_iff.mpr liveAt_distinct.nodup
    rw [← List.map_append] at nodes
    exact nodes.of_map
  obtain ⟨orderOnce, stuckOnce, apart⟩ := List.nodup_append'.mp once
  refine ⟨order, stuck, by rw [orderNodes, stuckNodes], by rw [counted, orderNodes, stuckNodes],
    orderOnce, stuckOnce, apart, fun position => ?_, ?_, fun position live => ?_⟩
  · rw [← List.mem_append, ← nodeAt_mem_map, List.map_append, perm.mem_iff, nodeAt_mem_liveAt]
  · rintro earlier position later rfl dependency leads
    rw [← nodeAt_mem_map]
    exact ordering.behind closed (List.map_append.trans rfl)
      (needs_nodeAt.mpr ⟨dependency, rfl, leads⟩)
  · rw [← nodeAt_mem_map, ordering.stuck_iff closed (by rwa [edgesAt_nodes, nodeAt_mem_liveAt]),
      meetsCycle_nodeAt]

/-- In a graph of providers the names mean the positions of their holders. -/
theorem dependencyOrder_eq_arrange (sections : Sections) (types : TypeTable) :
    ∃ byName : String → Option (Fin providers.length),
      ∀ alive, (ofProviders providers sections types).dependencyOrder (liveAt providers alive) =
        (edgesAt providers byName alive).arrange := by
  have named (name : String) : ∃ position : Option (Fin providers.length),
      position.map (nodeAt providers) = (ofProviders providers sections types).holder? name := by
    cases held : (ofProviders providers sections types).holder? name with
    | none => exact ⟨none, rfl⟩
    | some holder =>
        obtain ⟨entry, entryIn, rfl⟩ := List.mem_map.mp (mem_of_holder? held)
        obtain ⟨-, bound, same⟩ := List.mem_zipIdx entryIn
        rw [Nat.zero_add] at bound
        refine ⟨some ⟨entry.2, bound⟩, congrArg some ?_⟩
        rw [nodeAt]
        congr 1
        exact same.symm
  choose byName resolved using named
  refine ⟨byName, fun alive => ?_⟩
  rw [dependencyOrder, edges, edgesAt]
  congr 2
  funext name
  exact (resolved name).symm

end Positions

end PluginHost.Graph
