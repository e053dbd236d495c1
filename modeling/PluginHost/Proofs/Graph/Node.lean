import PluginHost.Graph.Validation
import Mathlib.Data.List.Nodup

/-
This file tells nodes apart by their positions. Among nodes at distinct positions, membership by
position is membership.
-/

namespace PluginHost.Graph

/-- No two nodes of the list stand at one position. -/
def Distinct (nodes : List Node) : Prop := (nodes.map Node.position).Nodup

namespace Distinct

theorem eq_of_position {nodes : List Node} (distinct : Distinct nodes) {first second : Node}
    (firstIn : first ∈ nodes) (secondIn : second ∈ nodes)
    (same : first.position = second.position) : first = second :=
  List.inj_on_of_nodup_map distinct firstIn secondIn same

theorem nodup {nodes : List Node} (distinct : Distinct nodes) : nodes.Nodup :=
  List.Nodup.of_map _ distinct

theorem sublist {nodes some : List Node} (distinct : Distinct nodes) (within : some.Sublist nodes) :
    Distinct some :=
  List.Nodup.sublist (within.map _) distinct

theorem of_nodup {nodes some : List Node} (distinct : Distinct nodes) (once : some.Nodup)
    (within : ∀ node ∈ some, node ∈ nodes) : Distinct some := by
  apply List.Nodup.map_on _ once
  intro first firstIn second secondIn same
  exact distinct.eq_of_position (within first firstIn) (within second secondIn) same

end Distinct

theorem isAmong_iff {nodes some : List Node} (distinct : Distinct nodes)
    (within : ∀ node ∈ some, node ∈ nodes) {node : Node} (member : node ∈ nodes) :
    isAmong some node = true ↔ node ∈ some := by
  simp only [isAmong, List.any_eq_true, beq_iff_eq]
  constructor
  · rintro ⟨other, otherIn, same⟩
    rw [← distinct.eq_of_position (within other otherIn) member same]
    exact otherIn
  · intro present
    exact ⟨node, present, rfl⟩

theorem isAmong_append (first second : List Node) (node : Node) :
    isAmong (first ++ second) node = (isAmong first node || isAmong second node) :=
  List.any_append

theorem mem_without {nodes some : List Node} (distinct : Distinct nodes)
    (within : ∀ node ∈ some, node ∈ nodes) {node other : Node} (member : node ∈ nodes) :
    other ∈ without some node ↔ other ∈ some ∧ other ≠ node := by
  simp only [without, List.mem_filter, bne_iff_ne, ne_eq]
  constructor
  · rintro ⟨otherIn, differs⟩
    exact ⟨otherIn, fun same => differs (congrArg Node.position same)⟩
  · rintro ⟨otherIn, differs⟩
    exact ⟨otherIn, fun same =>
      differs (distinct.eq_of_position (within other otherIn) member same)⟩

theorem without_sublist (nodes : List Node) (node : Node) : (without nodes node).Sublist nodes :=
  List.filter_sublist

section Holder

variable {graph : Graph} {name : String} {node : Node}

theorem holder?_spec (held : graph.holder? name = some node) :
    node ∈ graph.nodes ∧ node.descriptor.name = name := by
  rw [holder?, Option.or_eq_some_iff] at held
  rcases held with enabled | ⟨-, first⟩
  · have named := List.find?_some enabled
    rw [Bool.and_eq_true, beq_iff_eq] at named
    exact ⟨List.mem_of_find?_eq_some enabled, named.1⟩
  · have named := List.find?_some first
    exact ⟨List.mem_of_find?_eq_some first, by simpa using named⟩

theorem mem_of_holder? (held : graph.holder? name = some node) : node ∈ graph.nodes :=
  (holder?_spec held).1

theorem name_of_holder? (held : graph.holder? name = some node) : node.descriptor.name = name :=
  (holder?_spec held).2

/-- The only enabled node of a name is its holder. -/
theorem holder?_of_alone (member : node ∈ graph.nodes) (enabled : graph.isEnabled node = true)
    (alone : ∀ other ∈ graph.nodes, graph.isEnabled other = true →
      other.descriptor.name = node.descriptor.name → other = node) :
    graph.holder? node.descriptor.name = some node := by
  rw [holder?, Option.or_eq_some_iff]
  left
  cases found : graph.nodes.find? fun other =>
      other.descriptor.name == node.descriptor.name && graph.isEnabled other with
  | none =>
      have never := List.find?_eq_none.mp found node member
      simp [enabled] at never
  | some other =>
      have accepted := List.find?_some found
      rw [Bool.and_eq_true, beq_iff_eq] at accepted
      rw [alone other (List.mem_of_find?_eq_some found) accepted.2 accepted.1]

end Holder

section OfProviders

variable (providers : List Descriptor) (sections : Sections) (types : TypeTable)

theorem ofProviders_positions :
    (ofProviders providers sections types).nodes.map Node.position =
      List.range providers.length := by
  simp [ofProviders, Function.comp_def, List.zipIdx_map_snd, List.range_eq_range']

theorem ofProviders_distinct : Distinct (ofProviders providers sections types).nodes := by
  rw [Distinct, ofProviders_positions]
  exact List.nodup_range

theorem ofProviders_descriptors :
    (ofProviders providers sections types).nodes.map Node.descriptor = providers := by
  simp [ofProviders, Function.comp_def, List.zipIdx_map_fst]

end OfProviders

end PluginHost.Graph
