import PluginHost.Proofs.Graph.LoadOrder
import PluginHost.Proofs.Ordered
import Mathlib.Data.Finset.Max

/-
This file says in which order the valid providers are loaded. They are sorted by the depth of their
dependencies, and providers of one depth stand in the order of the input.
-/

namespace PluginHost

/-- A provider without fields has no depth, and any other is one deeper than the deepest provider
that its fields name. -/
structure Depths (valid : List Descriptor) (depth : Descriptor → Nat) : Prop where
  ground : ∀ descriptor ∈ valid, descriptor.fields = [] → depth descriptor = 0
  below : ∀ descriptor ∈ valid, ∀ provider ∈ valid, descriptor.Uses provider →
    depth provider < depth descriptor
  reached : ∀ descriptor ∈ valid, descriptor.fields ≠ [] →
    ∃ provider ∈ valid, descriptor.Uses provider ∧ depth descriptor = depth provider + 1

namespace Depths

variable {valid : List Descriptor} {depth : Descriptor → Nat}

/-- A bound on the depth is a bound on the depths of all that is used. -/
theorem le_iff (depths : Depths valid depth) {descriptor : Descriptor}
    (member : descriptor ∈ valid) (bound : Nat) :
    depth descriptor ≤ bound ↔
      ∀ provider ∈ valid, descriptor.Uses provider → depth provider < bound := by
  constructor
  · intro bounded provider providerIn uses
    exact Nat.lt_of_lt_of_le (depths.below descriptor member provider providerIn uses) bounded
  · intro under
    by_cases fieldless : descriptor.fields = []
    · rw [depths.ground descriptor member fieldless]
      exact Nat.zero_le bound
    · obtain ⟨provider, providerIn, uses, equal⟩ := depths.reached descriptor member fieldless
      rw [equal]
      exact under provider providerIn uses

theorem perm (depths : Depths valid depth) {others : List Descriptor} (perm : others.Perm valid) :
    Depths others depth where
  ground descriptor member := depths.ground descriptor (perm.mem_iff.mp member)
  below descriptor member provider providerIn :=
    depths.below descriptor (perm.mem_iff.mp member) provider (perm.mem_iff.mp providerIn)
  reached descriptor member fields := by
    obtain ⟨provider, providerIn, rest⟩ :=
      depths.reached descriptor (perm.mem_iff.mp member) fields
    exact ⟨provider, perm.mem_iff.mpr providerIn, rest⟩

/-- A provider that no earlier one uses gets a depth of its own behind them. -/
theorem extend [DecidableEq Descriptor] (depths : Depths valid depth) {last : Descriptor}
    {value : Nat} (fresh : ∀ descriptor ∈ valid, descriptor ≠ last)
    (unused : ∀ descriptor ∈ valid, ¬ descriptor.Uses last)
    (selfless : ¬ last.Uses last)
    (ground : last.fields = [] → value = 0)
    (below : ∀ provider ∈ valid, last.Uses provider → depth provider < value)
    (reached : last.fields ≠ [] →
      ∃ provider ∈ valid, last.Uses provider ∧ value = depth provider + 1) :
    Depths (valid ++ [last]) (Function.update depth last value) := by
  have earlier : ∀ descriptor ∈ valid, Function.update depth last value descriptor =
      depth descriptor := fun descriptor member =>
    Function.update_of_ne (fresh descriptor member) value depth
  have itself : Function.update depth last value last = value := Function.update_self ..
  constructor <;> simp only [List.mem_append, List.mem_singleton]
  · rintro descriptor (member | rfl) fieldless
    · rw [earlier descriptor member]
      exact depths.ground descriptor member fieldless
    · rw [itself]
      exact ground fieldless
  · rintro descriptor (member | rfl) provider (providerIn | rfl) uses
    · rw [earlier descriptor member, earlier provider providerIn]
      exact depths.below descriptor member provider providerIn uses
    · exact absurd uses (unused descriptor member)
    · rw [itself, earlier provider providerIn]
      exact below provider providerIn uses
    · exact absurd uses selfless
  · rintro descriptor (member | rfl) fields
    · obtain ⟨provider, providerIn, uses, equal⟩ := depths.reached descriptor member fields
      refine ⟨provider, .inl providerIn, uses, ?_⟩
      rw [earlier descriptor member, earlier provider providerIn, equal]
    · obtain ⟨provider, providerIn, uses, equal⟩ := reached fields
      refine ⟨provider, .inl providerIn, uses, ?_⟩
      rw [itself, earlier provider providerIn, equal]

/-- There is a depth behind all that a provider uses when every field of it is served. -/
theorem exists_value (depth : Descriptor → Nat) {last : Descriptor}
    (served : ∀ field ∈ last.fields, ∃ provider ∈ valid, provider.name = field.provider) :
    ∃ value, (last.fields = [] → value = 0) ∧
      (∀ provider ∈ valid, last.Uses provider → depth provider < value) ∧
      (last.fields ≠ [] → ∃ provider ∈ valid, last.Uses provider ∧ value = depth provider + 1) := by
  by_cases fieldless : last.fields = []
  · refine ⟨0, fun _ => rfl, ?_, fun fields => absurd fieldless fields⟩
    rintro provider - ⟨field, fieldIn, -⟩
    rw [fieldless] at fieldIn
    cases fieldIn
  · classical
    obtain ⟨field, fieldIn⟩ := List.exists_mem_of_ne_nil _ fieldless
    obtain ⟨used, usedIn, named⟩ := served field fieldIn
    obtain ⟨deepest, deepestIn, greatest⟩ := Finset.exists_max_image
      (valid.filter fun provider => decide (last.Uses provider)).toFinset depth
      ⟨used, by simpa using ⟨usedIn, field, fieldIn, named.symm⟩⟩
    simp only [List.mem_toFinset, List.mem_filter, decide_eq_true_eq] at deepestIn greatest
    refine ⟨depth deepest + 1, fun absent => absurd absent fieldless, fun provider member uses => ?_,
      fun _ => ⟨deepest, deepestIn.1, deepestIn.2, rfl⟩⟩
    exact Nat.lt_succ_of_le (greatest provider ⟨member, uses⟩)

/-- A list in which each provider stands behind those that it uses gives every provider a depth. -/
theorem exists_of_ahead (order : List Descriptor) (once : order.Nodup)
    (ahead : order.Pairwise fun earlier later => ¬ earlier.Uses later)
    (selfless : ∀ descriptor ∈ order, ¬ descriptor.Uses descriptor)
    (served : ∀ descriptor ∈ order, ∀ field ∈ descriptor.fields,
      ∃ provider ∈ order, provider.name = field.provider) :
    ∃ depth, Depths order depth := by
  classical
  induction order using List.reverseRecOn with
  | nil => exact ⟨fun _ => 0, by simp, by simp, by simp⟩
  | append_singleton order last ih =>
      obtain ⟨onceEarlier, -, apart⟩ := List.nodup_append.mp once
      obtain ⟨aheadEarlier, -, behind⟩ := List.pairwise_append.mp ahead
      have fresh : ∀ descriptor ∈ order, descriptor ≠ last := fun descriptor member =>
        apart descriptor member last (List.mem_singleton_self last)
      have unused : ∀ descriptor ∈ order, ¬ descriptor.Uses last := fun descriptor member =>
        behind descriptor member last (List.mem_singleton_self last)
      -- what a provider uses stands in front of it
      have servedBefore : ∀ descriptor ∈ order ++ [last], ∀ field ∈ descriptor.fields,
          ∃ provider ∈ order, provider.name = field.provider := by
        intro descriptor member field fieldIn
        obtain ⟨provider, providerIn, named⟩ := served descriptor member field fieldIn
        have uses : descriptor.Uses provider := ⟨field, fieldIn, named.symm⟩
        rcases List.mem_append.mp providerIn with earlier | here
        · exact ⟨provider, earlier, named⟩
        · rw [List.mem_singleton.mp here] at uses
          rcases List.mem_append.mp member with earlier | itself
          · exact absurd uses (unused descriptor earlier)
          · rw [List.mem_singleton.mp itself] at uses
            exact absurd uses (selfless last (by simp))
      obtain ⟨depth, depths⟩ := ih onceEarlier aheadEarlier
        (fun descriptor member => selfless descriptor (by simp [member]))
        (fun descriptor member => servedBefore descriptor (by simp [member]))
      obtain ⟨value, ground, below, reached⟩ := exists_value depth (servedBefore last (by simp))
      exact ⟨Function.update depth last value,
        depths.extend fresh unused (selfless last (by simp)) ground below reached⟩

end Depths

namespace Graph

/-- Each node is one deeper than the deepest of its dependencies. -/
def Edges.Graded (edges : Edges) (depth : Node → Nat) : Prop :=
  ∀ edge ∈ edges, ∀ bound,
    depth edge.1 ≤ bound ↔ ∀ dependency ∈ edge.2, depth dependency < bound

/-- The deeper node stands behind the other one, and of one depth the later one. -/
def Sinks (depth : Node → Nat) (first second : Node) : Prop :=
  depth first < depth second ∨ depth first = depth second ∧ first.position < second.position

namespace Frontier

variable {edges : Edges} {placed layer : List Node} {pending : Pending} {depth : Node → Nat}
  {level : Nat}

/-- When all nodes above a level are placed, the layer holds the nodes of that level. -/
theorem mem_layer_iff (closed : edges.Closed) (frontier : Frontier edges placed layer pending)
    (graded : edges.Graded depth)
    (above : ∀ node ∈ edges.map Prod.fst, node ∈ placed ↔ depth node < level) :
    ∀ node ∈ edges.map Prod.fst, node ∈ layer ↔ depth node = level := by
  intro node known
  obtain ⟨edge, member, rfl⟩ := List.mem_map.mp known
  have waits : waiting placed edge.2 = 0 ↔ depth edge.1 ≤ level := by
    rw [waiting_eq_zero, graded edge member]
    refine forall₂_congr fun dependency needed => ?_
    have inside := closed.inside edge member dependency needed
    rw [among_iff closed (fun other otherIn => frontier.inside other (by simp [otherIn])) inside,
      above dependency inside]
  rw [frontier.front edge member, above edge.1 known, waits]
  omega

theorem above_step (closed : edges.Closed) (frontier : Frontier edges placed layer pending)
    (graded : edges.Graded depth)
    (above : ∀ node ∈ edges.map Prod.fst, node ∈ placed ↔ depth node < level) :
    ∀ node ∈ edges.map Prod.fst, node ∈ placed ++ layer ↔ depth node < level + 1 := by
  intro node known
  rw [List.mem_append, above node known, frontier.mem_layer_iff closed graded above node known]
  omega

/-- The next layer is sorted by position. -/
theorem next_rising (closed : edges.Closed) (frontier : Frontier edges placed layer pending) :
    (sortByPosition (pending.release (layer.flatMap edges.dependents)).2).Pairwise
      fun first second => first.position < second.position := by
  let ready := (pending.release (layer.flatMap edges.dependents)).2
  have sorted : (sortByPosition ready).Pairwise fun first second =>
      decide (first.position ≤ second.position) = true :=
    List.pairwise_mergeSort (by simpa using fun _ _ _ => Nat.le_trans)
      (by simpa using fun _ _ => Nat.le_total _ _) ready
  have apart : (sortByPosition ready).Pairwise fun first second =>
      first.position ≠ second.position := by
    have distinct := frontier.ready_distinct closed
    rw [Distinct, ← ((List.mergeSort_perm ready _).map Node.position).nodup_iff] at distinct
    exact List.pairwise_map.mp distinct
  refine (sorted.and apart).imp fun both => ?_
  exact Nat.lt_of_le_of_ne (of_decide_eq_true both.1) both.2

/-- The layers are placed level by level, and each of them by position. -/
theorem layers_sinking (closed : edges.Closed) (frontier : Frontier edges placed layer pending)
    (graded : edges.Graded depth)
    (above : ∀ node ∈ edges.map Prod.fst, node ∈ placed ↔ depth node < level)
    (rising : layer.Pairwise fun first second => first.position < second.position) (fuel : Nat) :
    (edges.layers fuel layer pending).1.Pairwise (Sinks depth) ∧
      ∀ node ∈ (edges.layers fuel layer pending).1, level ≤ depth node := by
  induction fuel generalizing placed layer pending level with
  | zero => exact ⟨.nil, fun node absurd => by cases absurd⟩
  | succ fuel ih =>
      cases layer with
      | nil => exact ⟨.nil, fun node absurd => by cases absurd⟩
      | cons node rest =>
          have here : ∀ other ∈ node :: rest, depth other = level := fun other member =>
            (frontier.mem_layer_iff closed graded above other
              (frontier.inside other (List.mem_append_right _ member))).mp member
          obtain ⟨sinking, deeper⟩ := ih (frontier.step closed)
            (frontier.above_step closed graded above) (frontier.next_rising closed)
          rw [Edges.layers_cons]
          constructor
          · refine List.pairwise_append.mpr ⟨?_, sinking, ?_⟩
            · refine rising.imp_of_mem fun firstIn secondIn before => .inr ⟨?_, before⟩
              rw [here _ firstIn, here _ secondIn]
            · intro first firstIn second secondIn
              have := deeper second secondIn
              exact .inl (by rw [here first firstIn]; omega)
          · intro other member
            rcases List.mem_append.mp member with inLayer | later
            · rw [here other inLayer]
            · have := deeper other later
              omega

end Frontier

/-- A list in ascending positions is sorted by depth, and stably so, once its nodes sink. -/
theorem eq_mergeSort {depth : Node → Nat} {listed sorted : List Node} (perm : sorted.Perm listed)
    (rising : listed.Pairwise fun first second => first.position < second.position)
    (sinking : sorted.Pairwise (Sinks depth)) :
    sorted = listed.mergeSort fun first second => depth first ≤ depth second := by
  let merged := listed.mergeSort fun first second => decide (depth first ≤ depth second)
  have transitive : ∀ first second third : Node, decide (depth first ≤ depth second) = true →
      decide (depth second ≤ depth third) = true → decide (depth first ≤ depth third) = true := by
    simpa using fun _ _ _ => Nat.le_trans
  have total : ∀ first second : Node,
      (decide (depth first ≤ depth second) || decide (depth second ≤ depth first)) = true := by
    simpa using fun _ _ => Nat.le_total _ _
  have mergedSinking : merged.Pairwise (Sinks depth) := by
    refine List.pairwise_of_forall_sublist fun {first second} pair => ?_
    have ordered := of_decide_eq_true (List.pairwise_iff_forall_sublist.mp
      (List.pairwise_mergeSort transitive total listed) pair)
    rcases Nat.lt_or_eq_of_le ordered with less | equal
    · exact .inl less
    · -- within one depth the merged list is as ascending as the listed one
      have level := pair.filter fun node => depth node == depth second
      rw [filter_mergeSort transitive total listed _ (by simp +contextual)] at level
      simp only [List.filter_cons, equal, beq_self_eq_true, if_true, List.filter_nil] at level
      exact .inr ⟨equal, List.pairwise_iff_forall_sublist.mp rising
        (level.trans List.filter_sublist)⟩
  refine List.Perm.eq_of_pairwise ?_ sinking mergedSinking
    (perm.trans (List.mergeSort_perm listed _).symm)
  rintro first second - - (less | ⟨equal, before⟩) (more | ⟨same, after⟩)
  all_goals omega

variable {graph : Graph} {live : List Node} {depth : Descriptor → Nat}

/-- Depths of the live providers grade the edges between them. -/
theorem edges_graded (alive : Alive graph live)
    (grounded : ∀ node, node ∈ live ↔ graph.Grounded node)
    (depths : Depths (live.map Node.descriptor) depth) :
    (graph.edges live).Graded fun node => depth node.descriptor := by
  intro edge member bound
  obtain ⟨present, same⟩ := mem_edges.mp member
  rw [depths.le_iff (List.mem_map_of_mem present), same]
  constructor
  · intro under dependency needed
    obtain ⟨dependencyIn, field, fieldIn, held⟩ := alive.mem_dependencies.mp needed
    exact under _ (List.mem_map_of_mem dependencyIn) ⟨field, fieldIn, (name_of_holder? held).symm⟩
  · rintro under provider providerIn ⟨field, fieldIn, named⟩
    obtain ⟨holder, holderIn, rfl⟩ := List.mem_map.mp providerIn
    have held := ((grounded holder).mp holderIn).holder?
    rw [← named] at held
    exact under holder (alive.mem_dependencies.mpr ⟨holderIn, field, fieldIn, held⟩)

/-- The live nodes are put in order of their depth. -/
theorem dependencyOrder_eq_mergeSort (alive : Alive graph live)
    (grounded : ∀ node, node ∈ live ↔ graph.Grounded node)
    (depths : Depths (live.map Node.descriptor) depth)
    (rising : live.Pairwise fun first second => first.position < second.position)
    (complete : (graph.dependencyOrder live).1.Perm live) :
    (graph.dependencyOrder live).1 =
      live.mergeSort fun first second => depth first.descriptor ≤ depth second.descriptor := by
  have nothing : ∀ node ∈ (graph.edges live).map Prod.fst,
      node ∈ ([] : List Node) ↔ depth node.descriptor < 0 := by simp
  have firstRising : (graph.edges live).first.Pairwise fun first second =>
      first.position < second.position := by
    refine List.Pairwise.sublist List.filter_sublist ?_
    rwa [edges_nodes]
  have sinking := (alive.edges_closed.first_frontier.layers_sinking alive.edges_closed
    (edges_graded alive grounded depths) nothing firstRising
    ((graph.edges live).map Prod.fst).length).1
  exact eq_mergeSort complete rising sinking

/-- The order of a reduction is the one of the nodes that it leaves. -/
theorem Invariant.reduce_order (invariant : Invariant graph live) :
    (graph.reduce live).order = (graph.dependencyOrder (graph.reduce live).live).1 := by
  induction live using Graph.reduce.induct graph with
  | case1 live taken fewer ih =>
      rw [Graph.reduce, if_pos fewer]
      exact ih invariant.turn
  | case2 live taken same =>
      have unchanged : (graph.turn live).live.length = live.length :=
        Nat.le_antisymm (turn_sublist graph live).length_le (Nat.not_lt.mp same)
      have swept : (graph.sweep live live).1 = live := by
        refine (sweep_sublist graph live live).eq_of_length (Nat.le_antisymm
          (sweep_sublist graph live live).length_le ?_)
        rw [← unchanged, turn_live]
        exact List.length_filter_le _ _
      rw [Graph.reduce, if_neg same, (invariant.turn_unchanged unchanged).1, turn_order, swept]

section OfProviders

variable (providers : List Descriptor) (sections : Sections) (types : TypeTable)

theorem ofProviders_rising : (ofProviders providers sections types).nodes.Pairwise
    fun first second => first.position < second.position := by
  have positions : (List.range providers.length).Pairwise (· < ·) := List.pairwise_lt_range
  rw [← ofProviders_positions providers sections types] at positions
  exact List.pairwise_map.mp positions

/-- No two valid providers have one name. -/
theorem validate_names_nodup (distinct : Distinct graph.nodes) :
    (graph.validate.valid.map Descriptor.name).Nodup := by
  have reduced := reduction_reduced distinct
  have alive := (starters_invariant distinct).alive.sublist reduced.sublist
  rw [validate_valid_eq, List.map_map]
  refine List.Nodup.map_on (fun first firstIn second secondIn same => ?_) alive.once
  have grounded := (reduced.mem_iff first).mp firstIn
  exact ((reduced.mem_iff second).mp secondIn).alone first grounded.member grounded.enabled same

/-- Each field of a valid provider names a valid provider. -/
theorem validate_serves (distinct : Distinct graph.nodes) :
    ∀ descriptor ∈ graph.validate.valid, ∀ field ∈ descriptor.fields,
      ∃ provider ∈ graph.validate.valid, provider.name = field.provider := by
  intro descriptor valid field fieldIn
  obtain ⟨node, grounded, rfl⟩ := (mem_valid_iff distinct).mp valid
  obtain ⟨provider, held, providerGrounded⟩ := grounded.server fieldIn
  exact ⟨provider.descriptor, (mem_valid_iff distinct).mpr ⟨provider, providerGrounded, rfl⟩,
    name_of_holder? held⟩

/-- Every valid provider has a depth, and the providers are loaded in the order of their depths,
stably sorted. Each of them is loaded once and behind all that it uses. -/
theorem validate_sorts_by_depth :
    let validation := (ofProviders providers sections types).validate
    (∃ depth, Depths validation.valid depth) ∧
      (∀ depth, Depths validation.valid depth →
        validation.loadOrder = validation.valid.mergeSort fun first second =>
          depth first ≤ depth second) ∧
      validation.loadOrder.Perm validation.valid ∧
      validation.loadOrder.Pairwise fun earlier later => ¬ earlier.Uses later := by
  intro validation
  let graph := ofProviders providers sections types
  have distinct : Distinct graph.nodes := ofProviders_distinct providers sections types
  have perm : validation.loadOrder.Perm validation.valid := validate_loadOrder_perm distinct
  obtain ⟨ahead, selfless⟩ := validate_loadOrder_ahead distinct
  refine ⟨?_, fun depth depths => ?_, perm, ahead⟩
  · have once : validation.loadOrder.Nodup := perm.nodup_iff.mpr (.of_map _ (validate_names_nodup distinct))
    obtain ⟨depth, depths⟩ := Depths.exists_of_ahead validation.loadOrder once ahead selfless
      fun descriptor member field fieldIn => by
        obtain ⟨provider, valid, named⟩ :=
          validate_serves distinct descriptor (perm.mem_iff.mp member) field fieldIn
        exact ⟨provider, perm.mem_iff.mpr valid, named⟩
    exact ⟨depth, depths.perm perm.symm⟩
  · have reduced := reduction_reduced distinct
    have alive := (starters_invariant distinct).alive.sublist reduced.sublist
    have order : graph.reduction.order = (graph.dependencyOrder graph.reduction.live).1 :=
      (starters_invariant distinct).reduce_order
    have rising := (ofProviders_rising providers sections types).sublist
      (reduced.sublist.trans graph.starters_sublist)
    have complete := reduced.ordering.perm alive
    rw [order] at complete
    have sorted := dependencyOrder_eq_mergeSort alive reduced.mem_iff depths rising complete
    change graph.reduction.order.map Node.descriptor =
      (graph.reduction.live.map Node.descriptor).mergeSort _
    rw [order, sorted]
    exact List.map_mergeSort fun _ _ _ _ => rfl

end OfProviders

end Graph

end PluginHost
