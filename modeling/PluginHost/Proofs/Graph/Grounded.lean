import PluginHost.Proofs.Graph.Node
import Mathlib.Data.Fintype.Card
import Mathlib.Data.Set.Finite.Basic
import Mathlib.Logic.Relation

/-
This file says which providers can be relied on, without a word about how they are found. A
provider is grounded when it can be served from nothing by grounded providers alone.
-/

namespace PluginHost.Graph

/-- No other enabled node has the name. -/
def IsAlone (graph : Graph) (node : Node) : Prop :=
  ∀ other ∈ graph.nodes, graph.isEnabled other = true →
    other.descriptor.name = node.descriptor.name → other = node

/-- The table has a type for the provider of the field, and the field can hold that type. -/
def Fits (graph : Graph) (field : FieldInjection) : Prop :=
  ∃ found, graph.types.find? field.provider = some found ∧
    found.isAssignableTo field.declaredType = true

/-- Where no endless chain starts, no chain comes back. -/
theorem not_transGen_self {α : Type} {related : α → α → Prop} {start : α}
    (rooted : Acc (fun next here => related here next) start) :
    ¬ Relation.TransGen related start start := by
  intro cycle
  have reversed := Relation.transGen_swap.mpr cycle
  have deeper := rooted.transGen
  clear cycle rooted
  induction deeper with
  | intro start _ ih => exact ih start reversed reversed

/-- The least predicate under which each field of a node names a node of the predicate. -/
inductive Grounded (graph : Graph) : Node → Prop where
  | intro {node : Node} (member : node ∈ graph.nodes) (candidate : graph.isCandidate node = true)
      (alone : graph.IsAlone node) (server : FieldInjection → Node)
      (named : ∀ field ∈ node.descriptor.fields,
        (server field).descriptor.name = field.provider)
      (grounded : ∀ field ∈ node.descriptor.fields, Grounded graph (server field))
      (fits : ∀ field ∈ node.descriptor.fields, graph.Fits field) : Grounded graph node

/-- A field of the first node resolves to the second one. -/
def DependsOn (graph : Graph) (node provider : Node) : Prop :=
  ∃ field ∈ node.descriptor.fields, graph.holder? field.provider = some provider

theorem grounded_iff {graph : Graph} {node : Node} :
    graph.Grounded node ↔
      node ∈ graph.nodes ∧ graph.isCandidate node = true ∧ graph.IsAlone node ∧
        ∀ field ∈ node.descriptor.fields, ∃ provider,
          provider.descriptor.name = field.provider ∧ graph.Grounded provider ∧
            graph.Fits field := by
  constructor
  · rintro ⟨member, candidate, alone, server, named, grounded, fits⟩
    refine ⟨member, candidate, alone, fun field fieldIn => ?_⟩
    exact ⟨server field, named field fieldIn, grounded field fieldIn, fits field fieldIn⟩
  · rintro ⟨member, candidate, alone, served⟩
    classical
    let server (field : FieldInjection) : Node :=
      if fieldIn : field ∈ node.descriptor.fields then (served field fieldIn).choose else node
    have chosen (field : FieldInjection) (fieldIn : field ∈ node.descriptor.fields) :
        (server field).descriptor.name = field.provider ∧ graph.Grounded (server field) ∧
          graph.Fits field := by
      simp only [server, dif_pos fieldIn]
      exact (served field fieldIn).choose_spec
    exact .intro member candidate alone server (fun field fieldIn => (chosen field fieldIn).1)
      (fun field fieldIn => (chosen field fieldIn).2.1)
      fun field fieldIn => (chosen field fieldIn).2.2

theorem isCandidate_iff {graph : Graph} {node : Node} :
    graph.isCandidate node = true ↔
      graph.isEnabled node = true ∧ graph.isInstantiated node = true := by
  rw [isCandidate, Bool.and_eq_true]

namespace Grounded

variable {graph : Graph} {node provider : Node}

theorem member (grounded : graph.Grounded node) : node ∈ graph.nodes :=
  (grounded_iff.mp grounded).1

theorem candidate (grounded : graph.Grounded node) : graph.isCandidate node = true :=
  (grounded_iff.mp grounded).2.1

theorem enabled (grounded : graph.Grounded node) : graph.isEnabled node = true :=
  (isCandidate_iff.mp grounded.candidate).1

theorem alone (grounded : graph.Grounded node) : graph.IsAlone node :=
  (grounded_iff.mp grounded).2.2.1

theorem fits (grounded : graph.Grounded node) {field : FieldInjection}
    (fieldIn : field ∈ node.descriptor.fields) : graph.Fits field := by
  obtain ⟨-, -, -, served⟩ := grounded_iff.mp grounded
  obtain ⟨-, -, -, fits⟩ := served field fieldIn
  exact fits

/-- A grounded node is the one to which its name resolves. -/
theorem holder? (grounded : graph.Grounded node) :
    graph.holder? node.descriptor.name = some node :=
  holder?_of_alone grounded.member grounded.enabled grounded.alone

/-- Each field of a grounded node resolves to a grounded node. -/
theorem server (grounded : graph.Grounded node) {field : FieldInjection}
    (fieldIn : field ∈ node.descriptor.fields) :
    ∃ provider, graph.holder? field.provider = some provider ∧ graph.Grounded provider := by
  obtain ⟨-, -, -, served⟩ := grounded_iff.mp grounded
  obtain ⟨provider, named, providerGrounded, -⟩ := served field fieldIn
  exact ⟨provider, named ▸ providerGrounded.holder?, providerGrounded⟩

theorem dependsOn (grounded : graph.Grounded node) (depends : graph.DependsOn node provider) :
    graph.Grounded provider := by
  obtain ⟨field, fieldIn, held⟩ := depends
  obtain ⟨other, otherHeld, otherGrounded⟩ := grounded.server fieldIn
  rw [held] at otherHeld
  rwa [Option.some.inj otherHeld]

/-- There is no endless chain of dependencies below a grounded node. -/
theorem acc (grounded : graph.Grounded node) :
    Acc (fun provider node => graph.DependsOn node provider) node := by
  induction grounded with
  | intro member candidate alone server named grounded fits ih =>
      refine ⟨_, fun provider depends => ?_⟩
      obtain ⟨field, fieldIn, held⟩ := depends
      have serverHeld := (grounded field fieldIn).holder?
      rw [named field fieldIn, held] at serverHeld
      rw [Option.some.inj serverHeld]
      exact ih field fieldIn

theorem acyclic (grounded : graph.Grounded node) :
    ¬ Relation.TransGen graph.DependsOn node node := not_transGen_self grounded.acc

end Grounded

/-- Every kept node may stand in the graph, and each of its fields names a kept node. -/
structure SelfServing (graph : Graph) (kept : Node → Prop) : Prop where
  inside : ∀ node, kept node → node ∈ graph.nodes
  candidate : ∀ node, kept node → graph.isCandidate node = true
  alone : ∀ node, kept node → graph.IsAlone node
  served : ∀ node, kept node → ∀ field ∈ node.descriptor.fields, ∃ provider,
    provider.descriptor.name = field.provider ∧ kept provider ∧ graph.Fits field

/-- What serves itself without a cycle is grounded, so nothing more can be kept. -/
theorem SelfServing.grounded {graph : Graph} {kept : Node → Prop}
    (serving : graph.SelfServing kept)
    (acyclic : ∀ node, kept node → ¬ Relation.TransGen graph.DependsOn node node)
    {node : Node} (present : kept node) : graph.Grounded node := by
  let below (provider node : {node : Node // kept node}) : Prop :=
    Relation.TransGen graph.DependsOn node.1 provider.1
  have finite : Finite {node : Node // kept node} :=
    (graph.nodes.finite_toSet.subset serving.inside).to_subtype
  have transitive : IsTrans {node : Node // kept node} below :=
    ⟨fun _ _ _ first second => second.trans first⟩
  have irreflexive : Std.Irrefl below := ⟨fun node => acyclic node.1 node.2⟩
  have wellFounded : WellFounded below := Finite.wellFounded_of_trans_of_irrefl below
  have all (entry : {node : Node // kept node}) : graph.Grounded entry.1 := by
    induction entry using wellFounded.induction with
    | h entry ih =>
      obtain ⟨node, present⟩ := entry
      refine grounded_iff.mpr ⟨serving.inside node present, serving.candidate node present,
        serving.alone node present, fun field fieldIn => ?_⟩
      obtain ⟨provider, named, providerKept, fits⟩ := serving.served node present field fieldIn
      have held := holder?_of_alone (serving.inside provider providerKept)
        (isCandidate_iff.mp (serving.candidate provider providerKept)).1
        (serving.alone provider providerKept)
      have depends : graph.DependsOn node provider := ⟨field, fieldIn, named ▸ held⟩
      exact ⟨provider, named, ih ⟨provider, providerKept⟩ (.single depends), fits⟩
  exact all ⟨node, present⟩

end PluginHost.Graph
