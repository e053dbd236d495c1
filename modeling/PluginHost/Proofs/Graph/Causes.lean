import PluginHost.Proofs.Graph.Validation
import Mathlib.Data.Fintype.Pigeonhole
import Mathlib.Dynamics.PeriodicPts.Defs

/-
This file says what each cause of an exclusion means, without a word about how it is found. Most
causes are defects of the provider itself. The others lead to another provider, or to a cycle.
-/

namespace PluginHost.Graph

/-- The direct causes. They tell of the provider and of those that its fields name, whatever has
been decided about these. -/
inductive Defect (graph : Graph) (node : Node) : Exclusion → Prop where
  | shared {other : Node} (member : other ∈ graph.nodes)
      (enabled : graph.isEnabled other = true)
      (named : other.descriptor.name = node.descriptor.name)
      (apart : other.position ≠ node.position) : Defect graph node .duplicateName
  | unknown {field : FieldInjection} (own : field ∈ node.descriptor.fields)
      (unheld : ∀ other ∈ graph.nodes, other.descriptor.name ≠ field.provider) :
      Defect graph node (.missingProvider field.field field.provider)
  | untyped {field : FieldInjection} (own : field ∈ node.descriptor.fields) {other : Node}
      (member : other ∈ graph.nodes) (enabled : graph.isEnabled other = true)
      (named : other.descriptor.name = field.provider)
      (absent : graph.types.find? field.provider = none) :
      Defect graph node (.missingProvider field.field field.provider)
  | disabled {field : FieldInjection} (own : field ∈ node.descriptor.fields) {other : Node}
      (member : other ∈ graph.nodes) (named : other.descriptor.name = field.provider)
      (never : ∀ other ∈ graph.nodes, other.descriptor.name = field.provider →
        graph.isEnabled other = false) :
      Defect graph node (.disabledProvider field.field field.provider)
  | itself {field : FieldInjection} (own : field ∈ node.descriptor.fields)
      (named : field.provider = node.descriptor.name) :
      Defect graph node (.selfReference field.field)
  | unfit {field : FieldInjection} (own : field ∈ node.descriptor.fields) {found : TypeInfo}
      (typed : graph.types.find? field.provider = some found)
      (refused : found.isAssignableTo field.declaredType = false) :
      Defect graph node (.typeMismatch field.field field.provider field.declaredType found)

/-- At least two providers that take part, each of which depends on the next one around. -/
structure IsCycle (graph : Graph) (cycle : Cycle Node) : Prop where
  long : 2 ≤ cycle.length
  once : cycle.Nodup
  inside : ∀ node ∈ cycle, node ∈ graph.nodes ∧ graph.isCandidate node = true
  chain : cycle.Chain graph.DependsOn

/-- Dependencies lead from the node to a cycle, or the node is on one. -/
def ReachesCycle (graph : Graph) (node : Node) : Prop :=
  ∃ cycle, graph.IsCycle cycle ∧
    ∃ entrance ∈ cycle, Relation.ReflTransGen graph.DependsOn node entrance

/-- No defect is to be found at the node or anywhere behind its dependencies. -/
def Flawless (graph : Graph) (node : Node) : Prop :=
  ∀ other cause, Relation.ReflTransGen graph.DependsOn node other → ¬ graph.Defect other cause

/-- The cause tells the truth about the node, given the decisions made before it. -/
inductive Explains (graph : Graph) (earlier : List (Node × Exclusion)) (node : Node) :
    Exclusion → Prop where
  | defect {cause : Exclusion} (defect : graph.Defect node cause) :
      Explains graph earlier node cause
  | dependency {field : FieldInjection} (own : field ∈ node.descriptor.fields) {provider : Node}
      (held : graph.holder? field.provider = some provider) {cause : Exclusion}
      (decided : (provider, cause) ∈ earlier) (broken : cause ≠ .cycle) :
      Explains graph earlier node (.invalidDependency field.field field.provider)
  | cycle (reaches : graph.ReachesCycle node) : Explains graph earlier node .cycle

section Reaching

variable {α : Type} {related : α → α → Prop} {all : List α}

/-- A walk that stays inside a list comes back to where it has been. -/
theorem exists_return {walk : Nat → α} (inside : ∀ steps, walk steps ∈ all) :
    ∃ first second, first < second ∧ walk first = walk second := by
  have finite : Finite {x : α // x ∈ all} := all.finite_toSet.to_subtype
  obtain ⟨first, second, differs, again⟩ := Finite.exists_ne_map_eq_of_infinite
    fun steps : Nat => (⟨walk steps, inside steps⟩ : {x : α // x ∈ all})
  have same := congrArg Subtype.val again
  rcases Nat.lt_or_gt_of_ne differs with before | before
  · exact ⟨first, second, before, same⟩
  · exact ⟨second, first, before, same.symm⟩

/-- Where each element is related to one of them, every walk gets to where it can come back. -/
theorem exists_loop (onward : ∀ x ∈ all, ∃ y ∈ all, related x y) {start : α}
    (member : start ∈ all) :
    ∃ entrance, Relation.ReflTransGen related start entrance ∧
      Relation.TransGen related entrance entrance := by
  have : Nonempty α := ⟨start⟩
  choose! next inside further using onward
  have walk_inside (steps : Nat) : next^[steps] start ∈ all := by
    induction steps with
    | zero => exact member
    | succ steps ih =>
        rw [Function.iterate_succ_apply']
        exact inside _ ih
  have walk_related (steps : Nat) : related (next^[steps] start) (next^[steps + 1] start) := by
    rw [Function.iterate_succ_apply']
    exact further _ (walk_inside steps)
  obtain ⟨first, second, before, again⟩ := exists_return walk_inside
  have around := Nat.rel_of_forall_rel_succ_of_lt (Relation.TransGen related)
    (fun steps => .single (walk_related steps)) before
  rw [← again] at around
  exact ⟨next^[first] start, Nat.rel_of_forall_rel_succ_of_le (Relation.ReflTransGen related)
    (fun steps => .single (walk_related steps)) first.zero_le, around⟩

/-- Where each element is related to another one, every walk ends on a cycle. -/
theorem exists_cycle (onward : ∀ x ∈ all, ∃ y ∈ all, related x y ∧ y ≠ x) {start : α}
    (member : start ∈ all) :
    ∃ cycle : Cycle α, 2 ≤ cycle.length ∧ cycle.Nodup ∧ (∀ x ∈ cycle, x ∈ all) ∧
      cycle.Chain related ∧ ∃ entrance ∈ cycle, Relation.ReflTransGen related start entrance := by
  classical
  let next (x : α) : α := if known : x ∈ all then (onward x known).choose else x
  have next_spec (x : α) (known : x ∈ all) : next x ∈ all ∧ related x (next x) ∧ next x ≠ x := by
    simp only [next, dif_pos known]
    exact (onward x known).choose_spec
  have walk_inside (steps : Nat) : next^[steps] start ∈ all := by
    induction steps with
    | zero => exact member
    | succ steps ih =>
        rw [Function.iterate_succ_apply']
        exact (next_spec _ ih).1
  have walk_related (steps : Nat) : Relation.ReflTransGen related start (next^[steps] start) := by
    induction steps with
    | zero => exact .refl
    | succ steps ih =>
        rw [Function.iterate_succ_apply']
        exact ih.tail (next_spec _ (walk_inside steps)).2.1
  obtain ⟨first, second, before, again⟩ := exists_return walk_inside
  have periodic : next^[first] start ∈ Function.periodicPts next := by
    refine Function.mk_mem_periodicPts (Nat.sub_pos_of_lt before) ?_
    rw [Function.IsPeriodicPt, Function.IsFixedPt, ← Function.iterate_add_apply,
      Nat.sub_add_cancel before.le, again]
  have around (x : α) (on : x ∈ Function.periodicOrbit next (next^[first] start)) : x ∈ all := by
    obtain ⟨steps, rfl⟩ := (Function.mem_periodicOrbit_iff periodic).mp on
    rw [← Function.iterate_add_apply]
    exact walk_inside _
  refine ⟨Function.periodicOrbit next (next^[first] start), ?_, Function.nodup_periodicOrbit,
    around, ?_, next^[first] start, Function.self_mem_periodicOrbit periodic,
    walk_related first⟩
  · have positive := Function.minimalPeriod_pos_of_mem_periodicPts periodic
    have moving : Function.minimalPeriod next (next^[first] start) ≠ 1 := fun fixed =>
      (next_spec _ (walk_inside first)).2.2 (Function.minimalPeriod_eq_one_iff_isFixedPt.mp fixed)
    rw [Function.periodicOrbit_length]
    omega
  · rw [Function.periodicOrbit_chain' _ periodic]
    intro steps
    rw [Function.iterate_succ_apply', ← Function.iterate_add_apply]
    exact (next_spec _ (walk_inside _)).2.1

end Reaching

end PluginHost.Graph
