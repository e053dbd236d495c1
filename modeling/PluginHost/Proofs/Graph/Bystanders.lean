import PluginHost.Proofs.Graph.Reduction
import PluginHost.Proofs.Graph.Renumbering
import Mathlib.Data.List.Forall2
import Mathlib.Data.Option.Basic

/-
This file takes providers out of a graph that take no part in its validation. Nothing changes for
the others, but that a field naming such a provider can be excused in another way.
-/

namespace PluginHost

/-- The causes are the same, or one says that the named provider is disabled and the other one that
it is missing. -/
inductive Exclusion.Alike (name : String) : Exclusion → Exclusion → Prop where
  | same (cause : Exclusion) : Alike name cause cause
  | disabled (field : String) :
      Alike name (.disabledProvider field name) (.missingProvider field name)
  | missing (field : String) :
      Alike name (.missingProvider field name) (.disabledProvider field name)

/-- Both findings exclude one provider. -/
structure Finding.Alike (name : String) (first second : Finding) : Prop where
  provider : first.provider = second.provider
  className : first.className = second.className
  cause : first.cause.Alike name second.cause

namespace Graph

def keeping (graph : Graph) (keeps : Node → Bool) : Graph :=
  { graph with nodes := graph.nodes.filter keeps }

/-- Whatever is left out takes no part, and has the name. -/
structure Bystanders (graph : Graph) (keeps : Node → Bool) (name : String) : Prop where
  distinct : Distinct graph.nodes
  idle : ∀ node ∈ graph.nodes, keeps node = false →
    graph.isCandidate node = false ∧ node.descriptor.name = name

/-- Both entries exclude one node. -/
def EntryAlike (name : String) (first second : Node × Exclusion) : Prop :=
  first.1 = second.1 ∧ first.2.Alike name second.2

theorem entryAlike_same (name : String) (entries : List (Node × Exclusion)) :
    List.Forall₂ (EntryAlike name) entries entries :=
  List.forall₂_same.mpr fun entry _ => ⟨rfl, .same entry.2⟩

theorem EntryAlike.finding {name : String} {first second : Node × Exclusion}
    (alike : EntryAlike name first second) :
    (Graph.finding first).Alike name (Graph.finding second) where
  provider := congrArg (fun node : Node => node.descriptor.name) alike.1
  className := congrArg (fun node : Node => node.descriptor.className) alike.1
  cause := alike.2

namespace Bystanders

variable {graph : Graph} {keeps : Node → Bool} {name : String} {live : List Node} {node : Node}

/-- What every list of live nodes is made of. -/
def Taking (graph : Graph) (live : List Node) : Prop :=
  ∀ node ∈ live, node ∈ graph.nodes ∧ graph.isCandidate node = true

theorem Taking.mem_of_isAmong (distinct : Distinct graph.nodes) (taking : Taking graph live)
    (member : node ∈ graph.nodes) (among : isAmong live node = true) :
    graph.isCandidate node = true :=
  (taking node ((isAmong_iff distinct (fun other present => (taking other present).1) member).mp
    among)).2

theorem Taking.sublist {some : List Node} (taking : Taking graph live)
    (part : some.Sublist live) : Taking graph some :=
  fun node member => taking node (part.subset member)

section
variable (bystanders : Bystanders graph keeps name)
include bystanders

theorem candidates_eq : (graph.keeping keeps).candidates = graph.candidates := by
  rw [candidates, candidates, keeping, List.filter_filter]
  apply List.filter_congr
  intro node member
  change (graph.isCandidate node && keeps node) = graph.isCandidate node
  cases kept : keeps node with
  | true => rw [Bool.and_true]
  | false => rw [(bystanders.idle node member kept).1, Bool.and_false]

/-- Where the name has a type, the enabled holders of it are all kept. -/
theorem enabled_filter {wanted : String} (typed : graph.types.contains wanted = true) :
    ((graph.keeping keeps).nodes.filter fun node =>
        node.descriptor.name == wanted && graph.isEnabled node) =
      graph.nodes.filter fun node => node.descriptor.name == wanted && graph.isEnabled node := by
  rw [keeping, List.filter_filter]
  apply List.filter_congr
  intro node member
  cases kept : keeps node with
  | true => rw [Bool.and_true]
  | false =>
      have idle := (bystanders.idle node member kept).1
      by_cases named : node.descriptor.name = wanted
      · rw [isCandidate, isInstantiated, named, typed, Bool.and_true] at idle
        rw [idle, Bool.and_false, Bool.and_false]
      · simp [named]

theorem sharesName_eq (candidate : graph.isCandidate node = true) :
    (graph.keeping keeps).sharesName node = graph.sharesName node := by
  have typed := (isCandidate_iff.mp candidate).2
  rw [sharesName, sharesName]
  exact congrArg (fun holders => decide (1 < holders.length)) (bystanders.enabled_filter typed)

/-- Another name is held as before. -/
theorem holder?_of_ne {wanted : String} (differs : wanted ≠ name) :
    (graph.keeping keeps).holder? wanted = graph.holder? wanted := by
  have kept : ∀ node ∈ graph.nodes, node.descriptor.name = wanted → keeps node = true := by
    intro node member named
    by_contra dropped
    have same := (bystanders.idle node member (Bool.eq_false_iff.mpr dropped)).2
    exact differs (named.symm.trans same)
  have unchanged (chosen : Node → Bool)
      (asked : ∀ node, chosen node = true → node.descriptor.name = wanted) :
      (graph.keeping keeps).nodes.find? chosen = graph.nodes.find? chosen := by
    rw [← List.head?_filter, ← List.head?_filter, keeping, List.filter_filter]
    congr 1
    apply List.filter_congr
    intro node member
    cases picked : chosen node with
    | false => rfl
    | true => rw [kept node member (asked node picked), Bool.and_true]
  have enabled := unchanged (fun node => node.descriptor.name == wanted && graph.isEnabled node)
    (by simp +contextual)
  have any := unchanged (fun node => node.descriptor.name == wanted) (by simp)
  exact congrArg₂ Option.or enabled any

/-- A name is held as before, or on neither side by anyone who takes part. -/
theorem holder?_cases (wanted : String) :
    (graph.keeping keeps).holder? wanted = graph.holder? wanted ∨
      (∀ holder, graph.holder? wanted = some holder → graph.isCandidate holder = false) ∧
        ∀ holder, (graph.keeping keeps).holder? wanted = some holder →
          graph.isCandidate holder = false := by
  by_cases typed : graph.types.contains wanted = true
  · have first := congrArg List.head? (bystanders.enabled_filter typed)
    rw [List.head?_filter, List.head?_filter] at first
    cases found : graph.nodes.find? fun node =>
        node.descriptor.name == wanted && graph.isEnabled node with
    | some holder =>
        have here : graph.holder? wanted = some holder := by rw [holder?, found, Option.some_or]
        have there : (graph.keeping keeps).holder? wanted = some holder :=
          (congrArg (Option.or · _) (first.trans found)).trans (Option.some_or ..)
        exact .inl (there.trans here.symm)
    | none =>
        have refused : ∀ holder ∈ graph.nodes, holder.descriptor.name = wanted →
            graph.isCandidate holder = false := by
          intro holder member named
          have never := List.find?_eq_none.mp found holder member
          rw [named, beq_self_eq_true, Bool.true_and, Bool.not_eq_true] at never
          rw [isCandidate, never, Bool.false_and]
        refine .inr ⟨fun holder held => ?_, fun holder held => ?_⟩
        · exact refused holder (mem_of_holder? held) (name_of_holder? held)
        · exact refused holder (List.mem_of_mem_filter (mem_of_holder? held)) (name_of_holder? held)
  · have refused : ∀ holder : Node, holder.descriptor.name = wanted →
        graph.isCandidate holder = false := by
      intro holder named
      rw [isCandidate, isInstantiated, named, Bool.eq_false_iff.mpr typed, Bool.and_false]
    exact .inr ⟨fun holder held => refused holder (name_of_holder? held),
      fun holder held => refused holder (name_of_holder? held)⟩

theorem dependencies_eq (taking : Taking graph live) :
    (graph.keeping keeps).dependencies live node = graph.dependencies live node := by
  rw [dependencies, dependencies, dependenciesBy, dependenciesBy]
  apply List.filterMap_congr
  intro field _
  rcases bystanders.holder?_cases field.provider with same | ⟨here, there⟩
  · rw [same]
  · have nobody (held : Option Node) (inside : ∀ holder, held = some holder → holder ∈ graph.nodes)
        (idle : ∀ holder, held = some holder → graph.isCandidate holder = false) :
        held.filter (isAmong live) = none := by
      rw [Option.filter_eq_none_iff]
      intro holder held among
      have candidate := taking.mem_of_isAmong bystanders.distinct (inside holder held) among
      rw [idle holder held] at candidate
      cases candidate
    rw [nobody _ (fun _ held => mem_of_holder? held) here,
      nobody _ (fun _ held => List.mem_of_mem_filter (mem_of_holder? held)) there]

theorem dependencyOrder_eq (taking : Taking graph live) :
    (graph.keeping keeps).dependencyOrder live = graph.dependencyOrder live := by
  have edges : (graph.keeping keeps).edges live = graph.edges live := by
    rw [Graph.edges, Graph.edges, Edges.among, Edges.among]
    exact List.map_congr_left fun node _ =>
      congrArg (Prod.mk node) (bystanders.dependencies_eq taking)
  rw [dependencyOrder, dependencyOrder, edges]

end

/-- A field whose holder takes no part is excused by one of two causes. -/
theorem wrongField?_idle (live : List Node) (distinct : Distinct graph.nodes)
    (member : node ∈ graph.nodes) (candidate : graph.isCandidate node = true) {field : FieldInjection}
    (idle : ∀ holder, graph.holder? field.provider = some holder →
      graph.isCandidate holder = false) :
    graph.wrongField? live node field = some (.missingProvider field.field field.provider) ∨
      graph.wrongField? live node field = some (.disabledProvider field.field field.provider) := by
  rw [wrongField?]
  cases held : graph.holder? field.provider with
  | none => exact .inl rfl
  | some holder =>
      have apart : (holder.position == node.position) = false := by
        rw [beq_eq_false_iff_ne]
        intro same
        have itself := distinct.eq_of_position (mem_of_holder? held) member same
        rw [← itself, idle holder held] at candidate
        cases candidate
      have absent := idle holder held
      rw [isCandidate] at absent
      simp only [apart, Bool.false_eq_true, if_false]
      cases enabled : graph.isEnabled holder with
      | false => exact .inr rfl
      | true =>
          rw [enabled, Bool.true_and] at absent
          rw [absent]
          exact .inl rfl

section
variable (bystanders : Bystanders graph keeps name)
include bystanders

theorem keeping_distinct : Distinct (graph.keeping keeps).nodes :=
  bystanders.distinct.sublist List.filter_sublist

theorem kept_of_candidate (member : node ∈ graph.nodes) (candidate : graph.isCandidate node = true) :
    node ∈ (graph.keeping keeps).nodes := by
  refine List.mem_filter.mpr ⟨member, ?_⟩
  by_contra dropped
  rw [(bystanders.idle node member (Bool.eq_false_iff.mpr dropped)).1] at candidate
  cases candidate

theorem wrongField?_alike (taking : Taking graph live) (present : node ∈ live)
    (field : FieldInjection) :
    Option.Rel (Exclusion.Alike name) (graph.wrongField? live node field)
      ((graph.keeping keeps).wrongField? live node field) := by
  have same (equal : (graph.keeping keeps).holder? field.provider = graph.holder? field.provider) :
      Option.Rel (Exclusion.Alike name) (graph.wrongField? live node field)
        ((graph.keeping keeps).wrongField? live node field) := by
    have results : (graph.keeping keeps).wrongField? live node field =
        graph.wrongField? live node field := by
      rw [wrongField?, wrongField?, equal]
      rfl
    rw [results]
    cases graph.wrongField? live node field with
    | none => exact .none
    | some cause => exact .some (.same cause)
  by_cases named : field.provider = name
  · rcases bystanders.holder?_cases field.provider with equal | ⟨here, there⟩
    · exact same equal
    · obtain ⟨member, candidate⟩ := taking node present
      have first := wrongField?_idle live bystanders.distinct member candidate here
      have second := wrongField?_idle live bystanders.keeping_distinct
        (bystanders.kept_of_candidate member candidate) candidate there
      subst named
      rcases first with first | first <;> rcases second with second | second <;>
        rw [first, second] <;> constructor <;> constructor
  · exact same (bystanders.holder?_of_ne named)

theorem wrongDependency?_alike (taking : Taking graph live) (present : node ∈ live) :
    Option.Rel (Exclusion.Alike name) (graph.wrongDependency? live node)
      ((graph.keeping keeps).wrongDependency? live node) := by
  rw [wrongDependency?, wrongDependency?]
  induction node.descriptor.fields with
  | nil => exact .none
  | cons field rest ih =>
      rw [List.findSome?_cons, List.findSome?_cons]
      have alike := bystanders.wrongField?_alike taking present field
      generalize graph.wrongField? live node field = here at alike ⊢
      generalize (graph.keeping keeps).wrongField? live node field = there at alike ⊢
      cases alike with
      | none => exact ih
      | some alike => exact .some alike

theorem sweep_alike (visited : List Node) (taking : Taking graph live)
    (inside : ∀ node ∈ visited, node ∈ live) (once : visited.Nodup) :
    ((graph.keeping keeps).sweep visited live).1 = (graph.sweep visited live).1 ∧
      List.Forall₂ (EntryAlike name) (graph.sweep visited live).2
        ((graph.keeping keeps).sweep visited live).2 := by
  induction visited generalizing live with
  | nil => exact ⟨rfl, .nil⟩
  | cons node rest ih =>
      obtain ⟨fresh, restOnce⟩ := List.nodup_cons.mp once
      have later := fun other otherIn => inside other (List.mem_cons_of_mem node otherIn)
      have alike := bystanders.wrongDependency?_alike taking (inside node List.mem_cons_self)
      rw [sweep, sweep]
      generalize graph.wrongDependency? live node = here at alike ⊢
      generalize (graph.keeping keeps).wrongDependency? live node = there at alike ⊢
      cases alike with
      | none => exact ih taking later restOnce
      | some alike =>
          have present := (taking node (inside node List.mem_cons_self)).1
          have stillInside : ∀ other ∈ rest, other ∈ without live node := by
            intro other otherIn
            rw [mem_without bystanders.distinct (fun other member => (taking other member).1) present]
            exact ⟨later other otherIn, fun same => fresh (same ▸ otherIn)⟩
          obtain ⟨same, others⟩ :=
            ih (taking.sublist (without_sublist live node)) stillInside restOnce
          exact ⟨same, .cons ⟨rfl, alike⟩ others⟩

theorem turn_alike (taking : Taking graph live) (once : live.Nodup) :
    ((graph.keeping keeps).turn live).live = (graph.turn live).live ∧
      ((graph.keeping keeps).turn live).order = (graph.turn live).order ∧
      List.Forall₂ (EntryAlike name) (graph.turn live).found
        ((graph.keeping keeps).turn live).found := by
  obtain ⟨same, alike⟩ := bystanders.sweep_alike live taking (fun _ present => present) once
  have order := bystanders.dependencyOrder_eq (taking.sublist (sweep_sublist graph live live))
  rw [turn, turn]
  dsimp only
  rw [same, order]
  exact ⟨rfl, rfl, List.rel_append alike (entryAlike_same name _)⟩

theorem reduce_alike (taking : Taking graph live) (once : live.Nodup) :
    ((graph.keeping keeps).reduce live).live = (graph.reduce live).live ∧
      ((graph.keeping keeps).reduce live).order = (graph.reduce live).order ∧
      List.Forall₂ (EntryAlike name) (graph.reduce live).found
        ((graph.keeping keeps).reduce live).found := by
  induction live using Graph.reduce.induct graph with
  | case1 live taken fewer ih =>
      obtain ⟨same, -, alike⟩ := bystanders.turn_alike taking once
      have part := turn_sublist graph live
      obtain ⟨lives, orders, others⟩ := ih (taking.sublist part) (once.sublist part)
      rw [reduce_of_fewer fewer, reduce_of_fewer (by rwa [same]), same]
      exact ⟨lives, orders, List.rel_append alike others⟩
  | case2 live taken kept =>
      have alike := bystanders.turn_alike taking once
      rw [reduce_of_same kept, reduce_of_same (by rwa [alike.1])]
      exact alike

/-- Taking out whoever takes no part leaves the valid providers and the load order as they are. -/
theorem validate_alike :
    (graph.keeping keeps).validate.valid = graph.validate.valid ∧
      (graph.keeping keeps).validate.loadOrder = graph.validate.loadOrder ∧
      List.Forall₂ (Finding.Alike name) graph.validate.findings
        (graph.keeping keeps).validate.findings := by
  have shared : ∀ node ∈ graph.candidates,
      (graph.keeping keeps).sharesName node = graph.sharesName node := fun node member =>
    bystanders.sharesName_eq (List.mem_filter.mp member).2
  have alone : ∀ node ∈ graph.candidates,
      (!(graph.keeping keeps).sharesName node) = !graph.sharesName node :=
    fun node member => congrArg (!·) (shared node member)
  have starters := List.filter_congr alone
  have taking : Taking graph (graph.candidates.filter fun node => !graph.sharesName node) :=
    fun node member => List.mem_filter.mp (List.mem_of_mem_filter member)
  have once : (graph.candidates.filter fun node => !graph.sharesName node).Nodup :=
    bystanders.distinct.nodup.sublist (List.filter_sublist.trans List.filter_sublist)
  obtain ⟨lives, orders, alike⟩ := bystanders.reduce_alike taking once
  rw [validate, validate, reduction, reduction, bystanders.candidates_eq, starters,
    List.filter_congr shared]
  refine ⟨congrArg (List.map Node.descriptor) lives, congrArg (List.map Node.descriptor) orders, ?_⟩
  dsimp only
  rw [List.forall₂_map_left_iff, List.forall₂_map_right_iff]
  exact (List.rel_append (entryAlike_same name _) alike).imp fun _ _ same => same.finding

end

end Bystanders

section Insert

/-- Makes room for one position. -/
def shift (room position : Nat) : Nat := if position < room then position else position + 1

theorem shift_rising (room : Nat) : StrictMono (shift room) := by
  intro first second less
  unfold shift
  split <;> split <;> omega

/-- Behind the room, numbers go up by one. -/
theorem zipIdx_shift (providers : List Descriptor) {room start : Nat} (behind : room ≤ start) :
    (providers.zipIdx start).map (fun entry => Node.mk (shift room entry.2) entry.1) =
      (providers.zipIdx (start + 1)).map fun entry => ⟨entry.2, entry.1⟩ := by
  induction providers generalizing start with
  | nil => rfl
  | cons provider rest ih =>
      rw [List.zipIdx_cons, List.zipIdx_cons, List.map_cons, List.map_cons,
        ih (Nat.le_succ_of_le behind)]
      rw [shift, if_neg (Nat.not_lt.mpr behind)]

variable (before after : List Descriptor) (descriptor : Descriptor) (sections : Sections)
  (types : TypeTable)

/-- Making room for a provider numbers the others as if it stood there. -/
theorem ofProviders_shift :
    (ofProviders (before ++ after) sections types).renumber (shift before.length) =
      (ofProviders (before ++ descriptor :: after) sections types).keeping fun node =>
        node.position != before.length := by
  have early : ∀ entry ∈ before.zipIdx, entry.2 < before.length := by
    intro entry member
    simpa using List.snd_lt_of_mem_zipIdx member
  have late : ∀ entry ∈ after.zipIdx (before.length + 1), entry.2 ≠ before.length := by
    intro entry member same
    have above := List.le_snd_of_mem_zipIdx member
    omega
  have moved := zipIdx_shift after (Nat.le_refl before.length)
  rw [ofProviders, ofProviders, renumber, keeping, Graph.mk.injEq]
  refine ⟨?_, rfl, rfl⟩
  simp only [List.zipIdx_append, List.zipIdx_cons, Nat.zero_add, List.map_append, List.map_cons,
    List.filter_append, List.filter_cons, bne_self_eq_false, Bool.false_eq_true, if_false,
    List.map_map, Function.comp_def, Node.renumber, moved]
  congr 1
  · rw [List.filter_map, List.filter_eq_self.mpr]
    · refine List.map_congr_left fun entry member => ?_
      rw [shift, if_pos (early entry member)]
    · intro entry member
      exact bne_iff_ne.mpr (early entry member).ne
  · rw [List.filter_map, List.filter_eq_self.mpr]
    intro entry member
    exact bne_iff_ne.mpr (late entry member)

/-- A listed provider that is disabled, or whose name has no type, changes nothing for the others
but how a field that names it is excused. -/
theorem validate_insert_idle {descriptor : Descriptor}
    (idle : (sections.enables descriptor && types.contains descriptor.name) = false) :
    let whole := (ofProviders (before ++ descriptor :: after) sections types).validate
    let rest := (ofProviders (before ++ after) sections types).validate
    rest.valid = whole.valid ∧ rest.loadOrder = whole.loadOrder ∧
      List.Forall₂ (Finding.Alike descriptor.name) whole.findings rest.findings := by
  intro whole rest
  have bystanders : Bystanders (ofProviders (before ++ descriptor :: after) sections types)
      (fun node => node.position != before.length) descriptor.name := by
    refine ⟨ofProviders_distinct .., fun node member dropped => ?_⟩
    have here : (⟨before.length, descriptor⟩ : Node) ∈
        (ofProviders (before ++ descriptor :: after) sections types).nodes := by
      simp [ofProviders, List.zipIdx_append, List.zipIdx_cons]
    have same := (ofProviders_distinct ..).eq_of_position member here (by simpa using dropped)
    rw [same]
    exact ⟨idle, rfl⟩
  have renumbered : ((ofProviders (before ++ after) sections types).renumber
      (shift before.length)).validate = rest := validate_renumber (shift_rising before.length)
  rw [ofProviders_shift before after descriptor] at renumbered
  rw [← renumbered]
  exact bystanders.validate_alike

end Insert

end Graph

end PluginHost
