import PluginHost.Proofs.Graph.Findings
import PluginHost.Proofs.Graph.Renumbering

/-
This file takes a validation apart into single exclusions. Each of them strikes a node from the live
ones, and a flag beside them is raised by hand. The turns are repeated while the flag is up. They
come to an end, since the flag is up only after a turn that has struck someone.
-/

namespace PluginHost.Graph

/-- What a validation remembers on its way. The flag is up if the turn has excluded anyone. -/
structure Marks where
  live : List Node
  found : List (Node × Exclusion) := []
  changed : Bool := false
  order : List Node := []

namespace Marks

/-- Every exclusion is made here, whatever its cause. It leaves the flag alone. -/
def exclude (marks : Marks) (node : Node) (cause : Exclusion) : Marks :=
  { marks with
    live := without marks.live node
    found := marks.found ++ [(node, cause)] }

def raise (marks : Marks) : Marks := { marks with changed := true }

def separate (graph : Graph) (marks : Marks) (node : Node) : Marks :=
  if isAmong marks.live node && graph.sharesName node then marks.exclude node .duplicateName
  else marks

/-- The marks before the first turn. -/
def start (graph : Graph) : Marks :=
  graph.nodes.foldl (separate graph) { live := graph.candidates }

def inspect (graph : Graph) (marks : Marks) (node : Node) : Marks :=
  if isAmong marks.live node then
    match graph.wrongDependency? marks.live node with
    | none => marks
    | some cause => (marks.exclude node cause).raise
  else marks

def untie (marks : Marks) (node : Node) : Marks := (marks.exclude node .cycle).raise

/-- A turn takes the flag down, inspects all nodes and unties those that are stuck. -/
def turn (graph : Graph) (marks : Marks) : Marks :=
  let inspected := graph.nodes.foldl (inspect graph) { marks with changed := false }
  let (order, stuck) := graph.dependencyOrder inspected.live
  { stuck.foldl untie inspected with order := order }

/-- The marks after each turn, up to the first turn that leaves the flag down. Nothing comes out
if the budget is used up before. -/
def turns? (graph : Graph) : Nat → Marks → Option (List Marks)
  | 0, _ => none
  | budget + 1, marks =>
    let next := marks.turn graph
    if next.changed then (turns? graph budget next).map (next :: ·) else some [next]

end Marks

variable {graph : Graph} {live : List Node}

section Closed

/-- The nodes that are visited later do not miss the one that is left out. -/
theorem isAmong_without {node : Node} {rest : List Node} (distinct : Distinct (node :: rest))
    {other : Node} (member : other ∈ rest) :
    isAmong (without live node) other = isAmong live other := by
  have apart : other.position ≠ node.position := fun same =>
    (List.nodup_cons.mp distinct).1 (List.mem_map.mpr ⟨other, member, same⟩)
  rw [isAmong, isAmong, without, List.any_filter]
  congr 1
  funext known
  by_cases same : known.position = other.position
  · simp [same, apart]
  · simp [same]

theorem filter_isAmong_cons (node : Node) (rest : List Node) :
    (live.filter fun other => !isAmong (node :: rest) other) =
      (without live node).filter fun other => !isAmong rest other := by
  rw [without, List.filter_filter]
  congr 1
  funext other
  simp [isAmong, Bool.beq_comm, bne, Bool.and_comm]

/-- The nodes of a part are those found among it. -/
theorem filter_isAmong {nodes : List Node} (distinct : Distinct nodes) (part : live.Sublist nodes) :
    nodes.filter (isAmong live) = live := by
  refine (eq_filter_of_sublist part distinct.nodup _ fun node member => ?_).symm
  exact (isAmong_iff distinct (fun other present => part.subset present) member).symm

namespace Marks

theorem separate_all (graph : Graph) (visited : List Node) (distinct : Distinct visited)
    (marks : Marks) :
    let shared := visited.filter fun node => isAmong marks.live node && graph.sharesName node
    visited.foldl (separate graph) marks =
      { marks with
        live := marks.live.filter fun node => !isAmong shared node
        found := marks.found ++ shared.map fun node => (node, .duplicateName) } := by
  induction visited generalizing marks with
  | nil => simp [isAmong]
  | cons node rest ih =>
      have restDistinct : Distinct rest := distinct.sublist (List.sublist_cons_self node rest)
      rw [List.foldl_cons, List.filter_cons]
      by_cases shares : (isAmong marks.live node && graph.sharesName node) = true
      · have later : (rest.filter fun other =>
            isAmong (without marks.live node) other && graph.sharesName other) =
              rest.filter fun other => isAmong marks.live other && graph.sharesName other := by
          apply List.filter_congr
          intro other member
          rw [isAmong_without distinct member]
        rw [separate, if_pos shares, if_pos shares, ih restDistinct]
        simp only [exclude, later, filter_isAmong_cons, List.map_cons, List.append_assoc,
          List.singleton_append]
      · rw [separate, if_neg shares, if_neg shares, ih restDistinct]

/-- The inspection of all nodes is a sweep over the live ones. -/
theorem inspect_all (graph : Graph) (visited : List Node) (distinct : Distinct visited)
    (marks : Marks) :
    let swept := graph.sweep (visited.filter (isAmong marks.live)) marks.live
    visited.foldl (inspect graph) marks =
      { marks with
        live := swept.1
        found := marks.found ++ swept.2
        changed := marks.changed || !swept.2.isEmpty } := by
  induction visited generalizing marks with
  | nil => simp [sweep]
  | cons node rest ih =>
      have restDistinct : Distinct rest := distinct.sublist (List.sublist_cons_self node rest)
      rw [List.foldl_cons, List.filter_cons, inspect]
      by_cases present : isAmong marks.live node = true
      · rw [if_pos present, if_pos present, sweep]
        cases wrong : graph.wrongDependency? marks.live node with
        | none => exact ih restDistinct marks
        | some cause =>
            have later : rest.filter (isAmong (without marks.live node)) =
                rest.filter (isAmong marks.live) := by
              apply List.filter_congr
              intro other member
              exact isAmong_without distinct member
            simp only [ih restDistinct, raise, exclude, later, List.append_assoc, List.singleton_append,
              Bool.true_or, List.isEmpty_cons, Bool.not_false, Bool.or_true]
      · rw [if_neg present, if_neg present]
        exact ih restDistinct marks

theorem untie_all (stuck : List Node) (marks : Marks) :
    stuck.foldl untie marks =
      { marks with
        live := marks.live.filter fun node => !isAmong stuck node
        found := marks.found ++ stuck.map fun node => (node, .cycle)
        changed := marks.changed || !stuck.isEmpty } := by
  induction stuck generalizing marks with
  | nil => simp [isAmong]
  | cons node rest ih =>
      rw [List.foldl_cons, ih, filter_isAmong_cons]
      simp [untie, raise, exclude]

/-- Before the first turn, exactly the holders of shared names are excluded. -/
theorem start_eq (distinct : Distinct graph.nodes) :
    start graph =
      { live := graph.starters
        found := (graph.candidates.filter graph.sharesName).map fun node =>
          (node, .duplicateName) } := by
  have part : graph.candidates.Sublist graph.nodes := List.filter_sublist
  have shared : (graph.nodes.filter fun node =>
      isAmong graph.candidates node && graph.sharesName node) =
        graph.candidates.filter graph.sharesName := by
    rw [← congrArg (List.filter graph.sharesName) (filter_isAmong distinct part),
      List.filter_filter]
    simp only [Bool.and_comm]
  have others : (graph.candidates.filter fun node =>
      !isAmong (graph.candidates.filter graph.sharesName) node) = graph.starters := by
    apply List.filter_congr
    intro node member
    have within : ∀ other ∈ graph.candidates.filter graph.sharesName, other ∈ graph.nodes :=
      fun other shares => part.subset (List.mem_of_mem_filter shares)
    have among := isAmong_iff distinct within (part.subset member)
    rw [List.mem_filter, and_iff_right member] at among
    rw [Bool.eq_iff_iff.mpr among]
  have closed := separate_all graph graph.nodes distinct { live := graph.candidates }
  simp only [shared, others, List.nil_append] at closed
  exact closed

/-- A turn of the marks is a turn of the validation, and the flag tells of what it has found. -/
theorem turn_eq (distinct : Distinct graph.nodes) {marks : Marks}
    (part : marks.live.Sublist graph.nodes) :
    marks.turn graph =
      { live := (graph.turn marks.live).live
        found := marks.found ++ (graph.turn marks.live).found
        changed := !(graph.turn marks.live).found.isEmpty
        order := (graph.turn marks.live).order } := by
  have inspected := inspect_all graph graph.nodes distinct
    { marks with changed := false }
  simp only [filter_isAmong distinct part, Bool.false_or] at inspected
  rw [turn, inspected]
  simp only [untie_all, Graph.turn, List.append_assoc]
  cases (graph.sweep marks.live marks.live).2 with
  | nil => simp
  | cons first rest => rfl

end Marks

end Closed

section Turn

variable {marks : Marks}

/-- What holds of the marks between two turns. -/
structure Orderly (graph : Graph) (marks : Marks) : Prop where
  account : Account graph marks.found marks.live
  clear : Clear graph marks.found marks.live
  part : marks.live.Sublist graph.nodes

/-- The dropped nodes were live before, each of them is excluded once, and the others stay. -/
structure Marks.Drops (before after : Marks) (dropped : List (Node × Exclusion)) : Prop where
  found : after.found = before.found ++ dropped
  parts : (after.live ++ dropped.map Prod.fst).Perm before.live

namespace Orderly

theorem start (distinct : Distinct graph.nodes) : Orderly graph (Marks.start graph) := by
  rw [Marks.start_eq distinct]
  exact ⟨starters_account distinct, clear_shared _, starters_sublist graph⟩

variable (orderly : Orderly graph marks)
include orderly

theorem turn_eq : marks.turn graph =
    { live := (graph.turn marks.live).live
      found := marks.found ++ (graph.turn marks.live).found
      changed := !(graph.turn marks.live).found.isEmpty
      order := (graph.turn marks.live).order } :=
  Marks.turn_eq orderly.account.distinct orderly.part

theorem turn : Orderly graph (marks.turn graph) := by
  rw [orderly.turn_eq]
  obtain ⟨account, clear⟩ := orderly.account.turn orderly.clear
  exact ⟨account, clear, (turn_sublist graph marks.live).trans orderly.part⟩

theorem drops : marks.Drops (marks.turn graph) (graph.turn marks.live).found := by
  rw [orderly.turn_eq]
  constructor
  · rfl
  · -- both before and after the turn, the live and the decided nodes are all that take part
    have same := (orderly.account.turn orderly.clear).1.all.trans orderly.account.all.symm
    rw [List.map_append] at same
    have swapped := (List.perm_append_comm.append_left _).trans same
    rw [← List.append_assoc] at swapped
    exact (List.perm_append_right_iff _).mp swapped

theorem changed_eq : (marks.turn graph).changed = !(graph.turn marks.live).found.isEmpty :=
  congrArg Marks.changed orderly.turn_eq

/-- The flag is up exactly if the live nodes have become fewer. -/
theorem changed_iff :
    (marks.turn graph).changed = true ↔ (marks.turn graph).live.length < marks.live.length := by
  have counted := orderly.drops.parts.length_eq
  rw [List.length_append, List.length_map] at counted
  rw [orderly.changed_eq, ← counted, Bool.not_eq_true', List.isEmpty_eq_false_iff,
    ← List.length_pos_iff]
  omega

end Orderly

end Turn

/-- The loop as it runs. It ends with the first turn that leaves the flag down. -/
inductive Marks.Turns (graph : Graph) : Marks → List Marks → Prop where
  | last {marks : Marks} (down : (marks.turn graph).changed = false) :
      Turns graph marks [marks.turn graph]
  | next {marks : Marks} {later : List Marks} (up : (marks.turn graph).changed = true)
      (turns : Turns graph (marks.turn graph) later) :
      Turns graph marks (marks.turn graph :: later)

/-- Every run of the loop comes to an end. -/
theorem Orderly.exists_turns {marks : Marks} (orderly : Orderly graph marks) :
    ∃ later, Marks.Turns graph marks later := by
  induction size : marks.live.length using Nat.strong_induction_on generalizing marks with
  | h size ih =>
      subst size
      cases flag : (marks.turn graph).changed with
      | false => exact ⟨_, .last flag⟩
      | true =>
          obtain ⟨later, turns⟩ := ih _ (orderly.changed_iff.mp flag) orderly.turn rfl
          exact ⟨_, .next flag turns⟩

namespace Marks.Turns

variable {marks : Marks} {later : List Marks}

theorem turns?_eq (turns : Turns graph marks later) {budget : Nat}
    (room : later.length ≤ budget) : turns? graph budget marks = some later := by
  induction turns generalizing budget with
  | last down =>
      cases budget with
      | zero => simp at room
      | succ budget => simp [turns?, down]
  | next up turns ih =>
      cases budget with
      | zero => simp at room
      | succ budget =>
          have rest := ih (Nat.le_of_succ_le_succ room)
          simp [turns?, up, rest]

theorem length_le (turns : Turns graph marks later) (orderly : Orderly graph marks) :
    later.length ≤ marks.live.length + 1 := by
  induction turns with
  | last down => simp
  | next up turns ih =>
      have bounded := ih orderly.turn
      have fewer := orderly.changed_iff.mp up
      rw [List.length_cons]
      omega

theorem orderly (turns : Turns graph marks later) (orderly : Orderly graph marks) :
    ∀ after ∈ later, Orderly graph after := by
  induction turns with
  | last down => simpa using orderly.turn
  | next up turns ih => exact List.forall_mem_cons.mpr ⟨orderly.turn, ih orderly.turn⟩

/-- Each turn but the last drops someone, and the last one drops nobody. -/
theorem drops (turns : Turns graph marks later) (orderly : Orderly graph marks)
    {earlier rest : List Marks} {before after : Marks}
    (split : marks :: later = earlier ++ before :: after :: rest) :
    ∃ dropped, before.Drops after dropped ∧ (dropped = [] ↔ rest = []) := by
  induction turns generalizing earlier with
  | @last marks down =>
      have first : earlier = [] := by
        have counted := congrArg List.length split
        simp only [List.length_append, List.length_cons, List.length_nil] at counted
        exact List.eq_nil_of_length_eq_zero (by omega)
      subst first
      obtain ⟨rfl, rfl, rfl⟩ := by simpa using split
      rw [orderly.changed_eq] at down
      exact ⟨_, orderly.drops, by simpa using down⟩
  | @next marks later up turns ih =>
      cases earlier with
      | cons head earlier => exact ih orderly.turn (List.cons.inj split).2
      | nil =>
          obtain ⟨rfl, rfl, rfl⟩ := by simpa using split
          have following : later ≠ [] := by cases turns <;> simp
          rw [orderly.changed_eq] at up
          exact ⟨_, orderly.drops, by simpa [following] using up⟩

theorem shrinking (turns : Turns graph marks later) (orderly : Orderly graph marks) :
    (marks :: later).Pairwise fun before after =>
      after.live.Sublist before.live ∧ before.found <+: after.found := by
  have step (marks : Marks) (orderly : Orderly graph marks) :
      (marks.turn graph).live.Sublist marks.live ∧ marks.found <+: (marks.turn graph).found := by
    rw [orderly.turn_eq]
    exact ⟨turn_sublist graph marks.live, List.prefix_append _ _⟩
  induction turns with
  | @last marks down => simpa using step marks orderly
  | @next marks later up turns ih =>
      have others := ih orderly.turn
      obtain ⟨fewer, more⟩ := step marks orderly
      refine List.pairwise_cons.mpr ⟨List.forall_mem_cons.mpr ⟨⟨fewer, more⟩, ?_⟩, others⟩
      intro after member
      obtain ⟨evenFewer, evenMore⟩ := (List.pairwise_cons.mp others).1 after member
      exact ⟨evenFewer.trans fewer, more.trans evenMore⟩

/-- The last turn leaves what the reduction leaves. -/
theorem reduced (turns : Turns graph marks later) (orderly : Orderly graph marks) :
    ∃ earlier last, later = earlier ++ [last] ∧ last.live = (graph.reduce marks.live).live ∧
      last.found = marks.found ++ (graph.reduce marks.live).found ∧
      last.order = (graph.reduce marks.live).order := by
  induction turns with
  | @last marks down =>
      have same : ¬ (marks.turn graph).live.length < marks.live.length := by
        rw [← orderly.changed_iff, down]
        exact Bool.false_ne_true
      refine ⟨[], marks.turn graph, rfl, ?_⟩
      rw [orderly.turn_eq] at same ⊢
      rw [reduce_of_same same]
      exact ⟨rfl, rfl, rfl⟩
  | @next marks later up turns ih =>
      obtain ⟨earlier, last, rfl, live, found, order⟩ := ih orderly.turn
      have fewer := orderly.changed_iff.mp up
      refine ⟨marks.turn graph :: earlier, last, rfl, ?_⟩
      rw [orderly.turn_eq] at fewer live found order
      rw [reduce_of_fewer fewer, ← List.append_assoc]
      exact ⟨live, found, order⟩

end Marks.Turns

/-- The loop of a validation ends after at most one turn more than there are live nodes before it.
Every turn but the last drops live nodes, nobody is excluded twice or comes back, and the last turn
puts all that are left into an order. -/
theorem validate_ends (providers : List Descriptor) (sections : Sections) (types : TypeTable) :
    let graph := ofProviders providers sections types
    let start := Marks.start graph
    ∃ turns last,
      Marks.turns? graph (start.live.length + 1) start = some (turns ++ [last]) ∧
      (turns ++ [last]).length ≤ start.live.length + 1 ∧
      (∀ earlier before after rest,
        start :: (turns ++ [last]) = earlier ++ before :: after :: rest →
          ∃ dropped, before.Drops after dropped ∧ (dropped = [] ↔ rest = [])) ∧
      (∀ marks ∈ start :: (turns ++ [last]), (marks.live ++ marks.found.map Prod.fst).Nodup) ∧
      (start :: (turns ++ [last])).Pairwise (fun before after =>
        after.live.Sublist before.live ∧ before.found <+: after.found) ∧
      last.order.Perm last.live ∧
      graph.validate =
        { valid := last.live.map Node.descriptor
          findings := last.found.map finding
          loadOrder := last.order.map Node.descriptor } := by
  intro graph start
  have distinct : Distinct graph.nodes := ofProviders_distinct providers sections types
  have orderly : Orderly graph start := .start distinct
  obtain ⟨later, run⟩ := orderly.exists_turns
  have bounded := run.length_le orderly
  obtain ⟨turns, last, rfl, live, found, order⟩ := run.reduced orderly
  have begun : start = _ := Marks.start_eq distinct
  have reduced := reduction_reduced distinct
  have reducedLive : last.live = graph.reduction.live := by
    rw [live, begun]
    rfl
  have reducedFound : last.found = graph.reduction.found := by
    rw [found, begun]
    rfl
  have reducedOrder : last.order = graph.reduction.order := by
    rw [order, begun]
    rfl
  refine ⟨turns, last, run.turns?_eq bounded, bounded, fun _ _ _ _ => run.drops orderly, ?_,
    run.shrinking orderly, ?_, ?_⟩
  · intro marks member
    rcases List.mem_cons.mp member with rfl | after
    · exact orderly.account.once
    · exact (run.orderly orderly marks after).account.once
  · rw [reducedLive, reducedOrder]
    exact reduced.ordering.perm ((starters_invariant distinct).alive.sublist reduced.sublist)
  · rw [reducedLive, reducedFound, reducedOrder]
    rfl

/-- With the dependents in front each turn drops one node only, and the last turn is needed too. -/
example :
    let text : TypeInfo := ⟨"Text"⟩
    let asking (name provider : String) : Descriptor :=
      { category := .provider, className := name, registration := { name := name }
        injections := [.field ⟨"value", text, provider⟩] }
    let chain := ofProviders [asking "app" "cache", asking "cache" "store", asking "store" "disk"]
      (.ofEntries []) (.ofEntries [("app", text), ("cache", text), ("store", text)])
    let start := Marks.start chain
    start.live.length = 3 ∧ Marks.turns? chain 3 start = none ∧
      (Marks.turns? chain 4 start).map List.length = some 4 := by
  decide +kernel

end PluginHost.Graph
