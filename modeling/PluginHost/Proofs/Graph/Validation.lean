import PluginHost.Proofs.Graph.Reduction

/-
This file proves which providers a validation keeps. They are the grounded ones, in the order of
the input.
-/

namespace PluginHost.Graph

variable {graph : Graph}

/-- The enabled nodes of a name. -/
def holders (graph : Graph) (name : String) : List Node :=
  graph.nodes.filter fun other => other.descriptor.name == name && graph.isEnabled other

theorem mem_holders {name : String} {node : Node} :
    node ∈ graph.holders name ↔
      node ∈ graph.nodes ∧ node.descriptor.name = name ∧ graph.isEnabled node = true := by
  rw [holders, List.mem_filter, Bool.and_eq_true, beq_iff_eq]

theorem holders_eq_singleton_iff (distinct : Distinct graph.nodes) {node : Node}
    (member : node ∈ graph.nodes) (enabled : graph.isEnabled node = true) :
    graph.holders node.descriptor.name = [node] ↔ graph.IsAlone node := by
  have holds : node ∈ graph.holders node.descriptor.name := mem_holders.mpr ⟨member, rfl, enabled⟩
  constructor
  · intro only other otherIn otherEnabled named
    have otherHolds := mem_holders.mpr ⟨otherIn, named, otherEnabled⟩
    rwa [only, List.mem_singleton] at otherHolds
  · intro alone
    have once : (graph.holders node.descriptor.name).Nodup :=
      distinct.nodup.sublist List.filter_sublist
    have same : ∀ other ∈ graph.holders node.descriptor.name, other = node := by
      intro other otherHolds
      obtain ⟨otherIn, named, otherEnabled⟩ := mem_holders.mp otherHolds
      exact alone other otherIn otherEnabled named
    have repeated := List.eq_replicate_of_mem same
    rw [repeated] at once
    have single : (graph.holders node.descriptor.name).length = 1 :=
      Nat.le_antisymm (List.nodup_replicate.mp once) (List.length_pos_of_mem holds)
    rw [repeated, single]
    rfl

theorem sharesName_eq_false_iff (distinct : Distinct graph.nodes) {node : Node}
    (member : node ∈ graph.nodes) (enabled : graph.isEnabled node = true) :
    graph.sharesName node = false ↔ graph.IsAlone node := by
  have holds : node ∈ graph.holders node.descriptor.name := mem_holders.mpr ⟨member, rfl, enabled⟩
  rw [← holders_eq_singleton_iff distinct member enabled]
  change decide (1 < (graph.holders node.descriptor.name).length) = false ↔ _
  rw [decide_eq_false_iff_not, Nat.not_lt]
  constructor
  · intro single
    obtain ⟨first, only⟩ := List.length_eq_one_iff.mp
      (Nat.le_antisymm single (List.length_pos_of_mem holds))
    rw [only, List.mem_singleton] at holds
    rw [only, holds]
  · intro only
    rw [only]
    exact Nat.le_refl 1

theorem Grounded.not_sharesName (distinct : Distinct graph.nodes) {node : Node}
    (grounded : graph.Grounded node) : graph.sharesName node = false :=
  (sharesName_eq_false_iff distinct grounded.member grounded.enabled).mpr grounded.alone

/-- The nodes with which the first turn starts. -/
def starters (graph : Graph) : List Node :=
  graph.candidates.filter fun node => !graph.sharesName node

theorem mem_starters {node : Node} :
    node ∈ graph.starters ↔
      node ∈ graph.nodes ∧ graph.isCandidate node = true ∧ graph.sharesName node = false := by
  rw [starters, candidates, List.mem_filter, List.mem_filter, Bool.not_eq_true', and_assoc]

theorem starters_sublist (graph : Graph) : graph.starters.Sublist graph.nodes :=
  List.filter_sublist.trans List.filter_sublist

theorem starters_invariant (distinct : Distinct graph.nodes) :
    Invariant graph graph.starters where
  alive := {
    distinct := distinct
    inside := fun node present => (mem_starters.mp present).1
    once := distinct.nodup.sublist graph.starters_sublist }
  candidates node present := (mem_starters.mp present).2.1
  alone node present := by
    obtain ⟨member, candidate, single⟩ := mem_starters.mp present
    exact (sharesName_eq_false_iff distinct member (isCandidate_iff.mp candidate).1).mp single
  complete node grounded :=
    mem_starters.mpr ⟨grounded.member, grounded.candidate, grounded.not_sharesName distinct⟩

theorem reduction_reduced (distinct : Distinct graph.nodes) :
    Reduced graph graph.starters graph.reduction := by
  obtain ⟨sublist, mem_iff, ordering⟩ := (starters_invariant distinct).reduce
  exact ⟨sublist, mem_iff, ordering⟩

/-- A part of a list without repetitions is told by its members. -/
theorem eq_filter_of_sublist {α : Type} {some all : List α} (part : some.Sublist all)
    (once : all.Nodup) (keep : α → Bool) (mem_iff : ∀ x ∈ all, x ∈ some ↔ keep x = true) :
    some = all.filter keep := by
  induction part with
  | slnil => rfl
  | @cons shorter rest x later ih =>
      obtain ⟨fresh, restOnce⟩ := List.nodup_cons.mp once
      have dropped : ¬ keep x = true := by
        rw [← mem_iff x List.mem_cons_self]
        exact fun present => fresh (later.subset present)
      rw [List.filter_cons_of_neg dropped]
      exact ih restOnce fun y member => mem_iff y (List.mem_cons_of_mem x member)
  | @cons_cons shorter rest x later ih =>
      obtain ⟨fresh, restOnce⟩ := List.nodup_cons.mp once
      rw [List.filter_cons_of_pos ((mem_iff x List.mem_cons_self).mp List.mem_cons_self)]
      congr 1
      refine ih restOnce fun y member => ?_
      rw [← mem_iff y (List.mem_cons_of_mem x member), List.mem_cons]
      refine ⟨Or.inr, fun present => present.resolve_left ?_⟩
      rintro rfl
      exact fresh member

open Classical in
theorem reduction_live (distinct : Distinct graph.nodes) :
    graph.reduction.live = graph.nodes.filter fun node => decide (graph.Grounded node) := by
  have reduced := reduction_reduced distinct
  apply eq_filter_of_sublist (reduced.sublist.trans graph.starters_sublist) distinct.nodup
  intro node member
  rw [reduced.mem_iff, decide_eq_true_eq]

theorem validate_valid_eq (graph : Graph) :
    graph.validate.valid = graph.reduction.live.map Node.descriptor := rfl

/-- The load order holds the valid providers. -/
theorem validate_loadOrder_perm (distinct : Distinct graph.nodes) :
    graph.validate.loadOrder.Perm graph.validate.valid := by
  have reduced := reduction_reduced distinct
  have alive := (starters_invariant distinct).alive.sublist reduced.sublist
  exact (reduced.ordering.perm alive).map Node.descriptor

theorem mem_valid_iff (distinct : Distinct graph.nodes) {descriptor : Descriptor} :
    descriptor ∈ graph.validate.valid ↔
      ∃ node, graph.Grounded node ∧ node.descriptor = descriptor := by
  simp only [validate_valid_eq, List.mem_map, (reduction_reduced distinct).mem_iff]

section OfProviders

variable (providers : List Descriptor) (sections : Sections) (types : TypeTable)

open Classical in
/-- Validation keeps the grounded providers in the order of the input. They depend on one another
only, they have no cycle, and no larger set of providers could serve itself without a cycle. -/
theorem validate_keeps_grounded :
    let graph := ofProviders providers sections types
    graph.validate.valid =
        (graph.nodes.filter fun node => decide (graph.Grounded node)).map Node.descriptor ∧
      (∀ node provider, graph.Grounded node → graph.DependsOn node provider →
        graph.Grounded provider) ∧
      (∀ node, graph.Grounded node → ¬ Relation.TransGen graph.DependsOn node node) ∧
      ∀ kept : Node → Prop, graph.SelfServing kept →
        (∀ node, kept node → ¬ Relation.TransGen graph.DependsOn node node) →
          ∀ node, kept node → graph.Grounded node := by
  intro graph
  refine ⟨?_, ?_, ?_, ?_⟩
  · rw [validate_valid_eq, reduction_live (ofProviders_distinct providers sections types)]
  · exact fun node provider grounded depends => grounded.dependsOn depends
  · exact fun node grounded => grounded.acyclic
  · exact fun kept serving acyclic node present => serving.grounded acyclic present

end OfProviders

end PluginHost.Graph
