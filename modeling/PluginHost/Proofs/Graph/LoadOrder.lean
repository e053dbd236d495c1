import PluginHost.Proofs.Graph.Validation

/-
This file says what the load order of the valid providers achieves: no provider stands in front of
one that serves its fields.
-/

namespace PluginHost

/-- A field of the plugin names the provider. -/
def Descriptor.Uses (consumer provider : Descriptor) : Prop :=
  ∃ field ∈ consumer.fields, field.provider = provider.name

namespace Graph

/-- No placed node depends on itself or on one that is placed behind it. -/
theorem Edges.Arranged.ahead {edges : Edges} {seen order : List Node}
    (arranged : edges.Arranged seen order) (distinct : Distinct (seen ++ order)) :
    (order.Pairwise fun earlier later => ∀ edge ∈ edges, edge.1 = earlier → later ∉ edge.2) ∧
      ∀ node ∈ order, ∀ edge ∈ edges, edge.1 = node → node ∉ edge.2 := by
  induction order generalizing seen with
  | nil => exact ⟨.nil, fun node absurd => by cases absurd⟩
  | cons node rest ih =>
      obtain ⟨served, others⟩ := arranged
      have shifted : Distinct ((seen ++ [node]) ++ rest) := by
        rw [List.append_assoc]
        exact distinct
      -- a node that is not placed yet stands at another position than the nodes seen so far
      have unseen : ∀ other ∈ node :: rest, isAmong seen other = false := by
        intro other behind
        rw [Distinct, List.map_append, List.nodup_append] at distinct
        rw [Bool.eq_false_iff, ne_eq, isAmong, List.any_eq_true]
        rintro ⟨early, earlyIn, same⟩
        exact distinct.2.2 _ (List.mem_map_of_mem earlyIn) _ (List.mem_map_of_mem behind)
          (beq_iff_eq.mp same)
      have behind : ∀ other ∈ node :: rest, ∀ edge ∈ edges, edge.1 = node → other ∉ edge.2 := by
        intro other behind edge member here needed
        have seenBefore := served edge member here other needed
        rw [unseen other behind] at seenBefore
        cases seenBefore
      obtain ⟨pairs, selves⟩ := ih others shifted
      refine ⟨List.pairwise_cons.mpr ⟨fun later laterIn => ?_, pairs⟩, ?_⟩
      · exact behind later (List.mem_cons_of_mem node laterIn)
      · intro other member
        rcases List.mem_cons.mp member with rfl | later
        · exact behind other List.mem_cons_self
        · exact selves other later

variable {graph : Graph}

theorem Reduced.uses_dependency {reduction : Reduction}
    (alive : Alive graph reduction.live) (reduced : Reduced graph graph.starters reduction)
    {consumer provider : Node} (placed : provider ∈ reduction.order)
    (uses : consumer.descriptor.Uses provider.descriptor) :
    provider ∈ graph.dependencies reduction.live consumer := by
  obtain ⟨field, fieldIn, named⟩ := uses
  have present := reduced.ordering.inside provider placed
  have held := ((reduced.mem_iff provider).mp present).holder?
  rw [← named] at held
  exact alive.mem_dependencies.mpr ⟨present, field, fieldIn, held⟩

/-- No provider of the load order uses itself or one that stands behind it. -/
theorem validate_loadOrder_ahead (distinct : Distinct graph.nodes) :
    (graph.validate.loadOrder.Pairwise fun earlier later => ¬ earlier.Uses later) ∧
      ∀ descriptor ∈ graph.validate.loadOrder, ¬ descriptor.Uses descriptor := by
  have reduced := reduction_reduced distinct
  have alive := (starters_invariant distinct).alive.sublist reduced.sublist
  have apart : Distinct ([] ++ graph.reduction.order) :=
    alive.apart.of_nodup reduced.ordering.once reduced.ordering.inside
  obtain ⟨pairs, selves⟩ := reduced.ordering.arranged.ahead apart
  have edgeOf (node : Node) (placed : node ∈ graph.reduction.order) :
      (node, graph.dependencies graph.reduction.live node) ∈
        graph.edges graph.reduction.live :=
    mem_edges.mpr ⟨reduced.ordering.inside node placed, rfl⟩
  constructor
  · refine List.pairwise_map.mpr (pairs.imp_of_mem fun earlierIn laterIn behind uses => ?_)
    exact behind _ (edgeOf _ earlierIn) rfl (reduced.uses_dependency alive laterIn uses)
  · intro descriptor ordered uses
    obtain ⟨node, placed, rfl⟩ := List.mem_map.mp ordered
    exact selves node placed _ (edgeOf node placed) rfl (reduced.uses_dependency alive placed uses)

/-- The valid providers stand in the order of the input. -/
theorem ofProviders_valid_sublist (providers : List Descriptor) (sections : Sections)
    (types : TypeTable) :
    (ofProviders providers sections types).validate.valid.Sublist providers := by
  have reduced := reduction_reduced (ofProviders_distinct providers sections types)
  have within := (reduced.sublist.trans (starters_sublist _)).map Node.descriptor
  rwa [ofProviders_descriptors] at within

end Graph

end PluginHost
