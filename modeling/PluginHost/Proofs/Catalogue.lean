import PluginHost.Proofs.Registry.Listing

/-
This file says what a catalogue holds, however it was filled. It is the first candidate of each
class, in the order of arrival. Linked candidates arrive in the order of their classes, so the order
in which they were linked leaves no trace in it.
-/

namespace PluginHost.Catalogue

/-- The catalogues that can be, with everything that came in, in the order of arrival. -/
inductive Gathered : Catalogue → List Candidate → Prop where
  | empty : Gathered {} []
  | linked (linked : List Candidate) : Gathered (ofLinked linked) (sortByClass linked)
  | add {catalogue : Catalogue} {arrivals : List Candidate} (gathered : Gathered catalogue arrivals)
      (candidate : Candidate) : Gathered (catalogue.add candidate) (arrivals ++ [candidate])
  | addAll {catalogue : Catalogue} {arrivals : List Candidate}
      (gathered : Gathered catalogue arrivals) (candidates : List Candidate) :
      Gathered (catalogue.addAll candidates) (arrivals ++ candidates)

/-- No candidate in front of the position has the class of the one that stands there. -/
def isFirst (arrivals : List Candidate) (entry : Candidate × Nat) : Bool :=
  (arrivals.take entry.2).all fun earlier => earlier.className != entry.1.className

/-- The first candidate of each class, in the order of arrival. -/
def firsts (arrivals : List Candidate) : List Candidate :=
  (arrivals.zipIdx.filter (isFirst arrivals)).map Prod.fst

section Firsts

variable {arrivals : List Candidate} {candidate : Candidate}

/-- The next arrival counts if none of its class came before. -/
theorem firsts_concat (arrivals : List Candidate) (candidate : Candidate) :
    firsts (arrivals ++ [candidate]) = firsts arrivals ++
      if arrivals.any fun earlier => earlier.className == candidate.className then []
      else [candidate] := by
  have before : arrivals.zipIdx.filter (isFirst (arrivals ++ [candidate])) =
      arrivals.zipIdx.filter (isFirst arrivals) := by
    apply List.filter_congr
    intro entry member
    have bound := (List.mem_zipIdx member).2.1
    rw [isFirst, isFirst, List.take_append_of_le_length (by omega)]
  have last : isFirst (arrivals ++ [candidate]) (candidate, arrivals.length) =
      !arrivals.any fun earlier => earlier.className == candidate.className := by
    rw [isFirst, List.take_left, List.not_any_eq_all_not]
    rfl
  rw [firsts, List.zipIdx_append, List.filter_append, List.map_append, before, ← firsts]
  congr 1
  rw [List.zipIdx_singleton, Nat.zero_add, List.filter_singleton, last]
  cases arrivals.any fun earlier => earlier.className == candidate.className <;> rfl

theorem firsts_sublist (arrivals : List Candidate) : (firsts arrivals).Sublist arrivals := by
  have part := (List.filter_sublist (p := isFirst arrivals) (l := arrivals.zipIdx)).map Prod.fst
  rwa [List.zipIdx_map_fst] at part

theorem any_firsts (arrivals : List Candidate) (className : String) :
    ((firsts arrivals).any fun known => known.className == className) =
      arrivals.any fun known => known.className == className := by
  induction arrivals using List.reverseRecOn with
  | nil => rfl
  | append_singleton earlier last ih =>
      rw [firsts_concat, List.any_append, List.any_append, ih]
      by_cases known : (earlier.any fun other => other.className == last.className) = true
      · rw [if_pos known]
        by_cases named : last.className = className
        · simp [← named, known]
        · simp [named]
      · rw [if_neg known]

theorem firsts_classes (arrivals : List Candidate) :
    ((firsts arrivals).map Candidate.className).Nodup := by
  induction arrivals using List.reverseRecOn with
  | nil => exact List.nodup_nil
  | append_singleton earlier last ih =>
      rw [firsts_concat]
      by_cases known : (earlier.any fun other => other.className == last.className) = true
      · rwa [if_pos known, List.append_nil]
      · rw [if_neg known, List.map_append, List.nodup_append]
        refine ⟨ih, List.nodup_singleton _, ?_⟩
        rintro className held other here rfl
        rw [← any_firsts, List.any_eq_true] at known
        obtain ⟨first, member, named⟩ := List.mem_map.mp held
        rw [List.map_singleton, List.mem_singleton] at here
        exact known ⟨first, member, by rw [named, here, beq_self_eq_true]⟩

/-- Where no class is repeated, everyone is the first. -/
theorem firsts_eq_self (once : (arrivals.map Candidate.className).Nodup) :
    firsts arrivals = arrivals := by
  induction arrivals using List.reverseRecOn with
  | nil => rfl
  | append_singleton earlier last ih =>
      rw [List.map_append, List.nodup_append] at once
      obtain ⟨earlierOnce, -, apart⟩ := once
      have fresh : ¬ (earlier.any fun other => other.className == last.className) = true := by
        rw [List.any_eq_true]
        rintro ⟨other, member, same⟩
        exact apart _ (List.mem_map_of_mem member) last.className (by simp) (beq_iff_eq.mp same)
      rw [firsts_concat, ih earlierOnce, if_neg fresh]

/-- A candidate is the first of its class if the search for the class ends with it. -/
theorem mem_firsts_iff : candidate ∈ firsts arrivals ↔
    arrivals.find? (fun other => other.className == candidate.className) = some candidate := by
  induction arrivals using List.reverseRecOn with
  | nil => simp [firsts]
  | append_singleton earlier last ih =>
      rw [firsts_concat, List.mem_append, ih, List.find?_append]
      by_cases same : last.className = candidate.className
      · have searched : (earlier.any fun other => other.className == candidate.className) =
            (earlier.find? fun other => other.className == candidate.className).isSome := by
          rw [Bool.eq_iff_iff, List.any_eq_true, List.find?_isSome]
        rw [same, searched]
        cases earlier.find? fun other => other.className == candidate.className with
        | some first => simp
        | none => simp [same, eq_comm]
      · have other : candidate ≠ last := fun here => same (here ▸ rfl)
        split <;> simp [same, other]

end Firsts

section Gathering

variable {catalogue : Catalogue} {arrivals : List Candidate}

theorem add_firsts (arrivals : List Candidate) (candidate : Candidate) :
    add ⟨firsts arrivals⟩ candidate = ⟨firsts (arrivals ++ [candidate])⟩ := by
  have known : hasClass ⟨firsts arrivals⟩ candidate.descriptor.className =
      arrivals.any fun earlier => earlier.className == candidate.className :=
    any_firsts arrivals candidate.className
  rw [add, known, firsts_concat]
  split <;> simp

theorem addAll_firsts (arrivals candidates : List Candidate) :
    addAll ⟨firsts arrivals⟩ candidates = ⟨firsts (arrivals ++ candidates)⟩ := by
  induction candidates generalizing arrivals with
  | nil => rw [List.append_nil]; rfl
  | cons candidate rest ih =>
      rw [addAll, List.foldl_cons, add_firsts, ← addAll, ih, List.append_assoc,
        List.singleton_append]

theorem ofLinked_firsts (linked : List Candidate) :
    ofLinked linked = ⟨firsts (sortByClass linked)⟩ := addAll_firsts [] (sortByClass linked)

theorem Gathered.eq_firsts (gathered : Gathered catalogue arrivals) :
    catalogue = ⟨firsts arrivals⟩ := by
  induction gathered with
  | empty => rfl
  | linked linked => exact ofLinked_firsts linked
  | add gathered candidate ih => rw [ih, add_firsts]
  | addAll gathered candidates ih => rw [ih, addAll_firsts]

end Gathering

section Linking

variable {candidates : List Candidate}

theorem className_le_trans (first second third : Candidate)
    (before : decide (first.className ≤ second.className) = true)
    (after : decide (second.className ≤ third.className) = true) :
    decide (first.className ≤ third.className) = true := by
  rw [decide_eq_true_eq] at *
  exact String.le_trans before after

theorem className_le_total (first second : Candidate) :
    (decide (first.className ≤ second.className) ||
      decide (second.className ≤ first.className)) = true := by
  simpa using String.le_total _ _

theorem sortByClass_perm (candidates : List Candidate) :
    (sortByClass candidates).Perm candidates := List.mergeSort_perm _ _

/-- Sorting does not change which candidate of a class is found first. -/
theorem find?_sortByClass (candidates : List Candidate) (className : String) :
    ((sortByClass candidates).find? fun candidate => candidate.className == className) =
      candidates.find? fun candidate => candidate.className == className := by
  rw [← List.head?_filter, ← List.head?_filter]
  congr 1
  refine filter_mergeSort className_le_trans className_le_total candidates _ ?_
  intro first second firstNamed secondNamed
  have same := (beq_iff_eq.mp firstNamed).trans (beq_iff_eq.mp secondNamed).symm
  apply decide_eq_true
  show first.className ≤ second.className
  exact same ▸ String.le_refl first.className

/-- The classes of the candidates ascend, so that no two of them are the same. -/
def Ascending (candidates : List Candidate) : Prop :=
  candidates.Pairwise fun first second => first.className < second.className

theorem sortByClass_sorted (candidates : List Candidate) :
    (sortByClass candidates).Pairwise fun first second => first.className ≤ second.className :=
  (List.pairwise_mergeSort className_le_trans className_le_total candidates).imp of_decide_eq_true

namespace Ascending

theorem of_sorted
    (sorted : candidates.Pairwise fun first second => first.className ≤ second.className)
    (once : (candidates.map Candidate.className).Nodup) : Ascending candidates := by
  refine (sorted.and (List.pairwise_map.mp once)).imp fun both => ?_
  obtain ⟨upTo, differs⟩ := both
  by_contra after
  exact differs (String.le_antisymm upTo (String.not_lt.mp after))

theorem sortByClass (once : (candidates.map Candidate.className).Nodup) :
    Ascending (sortByClass candidates) :=
  of_sorted (sortByClass_sorted candidates)
    (((sortByClass_perm candidates).map Candidate.className).nodup_iff.mpr once)

theorem eq_of_perm {others : List Candidate} (ascending : Ascending candidates)
    (also : Ascending others) (perm : candidates.Perm others) : candidates = others := by
  refine perm.eq_of_pairwise (fun _ _ _ _ before after => ?_) ascending also
  exact (String.lt_irrefl _ (String.lt_trans before after)).elim

end Ascending

/-- What was linked is gathered in the order of the classes, of each class the first that was
linked. -/
theorem ofLinked_eq (linked : List Candidate) :
    ofLinked linked = ⟨sortByClass (firsts linked)⟩ := by
  have once := firsts_classes (sortByClass linked)
  have ascending : Ascending (firsts (sortByClass linked)) :=
    .of_sorted ((sortByClass_sorted linked).sublist (firsts_sublist _)) once
  have alsoOnce := firsts_classes linked
  have members : (firsts (sortByClass linked)).Perm (firsts linked) := by
    rw [List.perm_ext_iff_of_nodup (.of_map _ once) (.of_map _ alsoOnce)]
    intro candidate
    rw [mem_firsts_iff, mem_firsts_iff, find?_sortByClass]
  rw [ofLinked_firsts, ascending.eq_of_perm (.sortByClass alsoOnce)
    (members.trans (sortByClass_perm _).symm)]

theorem ofLinked_ascending (linked : List Candidate) : Ascending (ofLinked linked).candidates := by
  rw [ofLinked_eq]
  exact .sortByClass (firsts_classes linked)

/-- Without a repeated class, the order of linking leaves no trace. -/
theorem ofLinked_eq_of_perm {linked shuffled : List Candidate} (same : shuffled.Perm linked)
    (once : (linked.map Candidate.className).Nodup) : ofLinked shuffled = ofLinked linked := by
  have alsoOnce : (shuffled.map Candidate.className).Nodup :=
    (same.map Candidate.className).nodup_iff.mpr once
  have sorted : (sortByClass shuffled).Perm (sortByClass linked) :=
    ((sortByClass_perm shuffled).trans same).trans (sortByClass_perm linked).symm
  rw [ofLinked_eq, ofLinked_eq, firsts_eq_self once, firsts_eq_self alsoOnce,
    Ascending.eq_of_perm (.sortByClass alsoOnce) (.sortByClass once) sorted]

theorem ofLinked_perm {linked : List Candidate} (once : (linked.map Candidate.className).Nodup) :
    (ofLinked linked).candidates.Perm linked := by
  rw [ofLinked_eq, firsts_eq_self once]
  exact sortByClass_perm linked

end Linking

section Listing

variable {catalogue : Catalogue}

theorem mem_discovery {category : Category} {candidate : Candidate} :
    candidate ∈ catalogue.discovery category ↔
      candidate ∈ catalogue.candidates ∧ candidate.descriptor.category = category := by
  rw [discovery, List.mem_filter, beq_iff_eq]

/-- Each candidate is listed once, under its own category. -/
theorem discovery_perm (once : (catalogue.candidates.map Candidate.className).Nodup) :
    (Category.bootOrder.flatMap catalogue.discovery).Perm catalogue.candidates := by
  have candidatesOnce : catalogue.candidates.Nodup := .of_map _ once
  have listedOnce : (Category.bootOrder.flatMap catalogue.discovery).Nodup := by
    rw [List.nodup_flatMap]
    refine ⟨fun category _ => candidatesOnce.sublist List.filter_sublist, ?_⟩
    have apart : Category.bootOrder.Pairwise (· ≠ ·) := by decide
    refine apart.imp fun differs candidate listed alsoListed => ?_
    exact differs ((mem_discovery.mp listed).2.symm.trans (mem_discovery.mp alsoListed).2)
  rw [List.perm_ext_iff_of_nodup listedOnce candidatesOnce]
  intro candidate
  have known : candidate.descriptor.category ∈ Category.bootOrder := by
    cases candidate.descriptor.category <;> decide
  rw [List.mem_flatMap]
  constructor
  · rintro ⟨category, -, listed⟩
    exact (mem_discovery.mp listed).1
  · exact fun held => ⟨_, known, mem_discovery.mpr ⟨held, rfl⟩⟩

/-- The classes of a catalogue can only meet those of the host's own providers. -/
theorem discovery_distinct_iff (once : (catalogue.candidates.map Candidate.className).Nodup) :
    catalogue.discovery.Distinct ↔ ∀ candidate ∈ catalogue.candidates,
      candidate.className ∉ Builtin.descriptors.map Descriptor.className := by
  have classes : ((Category.bootOrder.flatMap fun category =>
      (catalogue.discovery category).map Candidate.descriptor).map Descriptor.className).Perm
        (catalogue.candidates.map Candidate.className) := by
    rw [List.map_flatMap]
    simp only [List.map_map]
    rw [← List.map_flatMap]
    exact (discovery_perm once).map Candidate.className
  have own : (Builtin.descriptors.map Descriptor.className).Nodup := by decide
  rw [Discovery.Distinct, List.map_append, (classes.append_left _).nodup_iff, List.nodup_append]
  constructor
  · rintro ⟨-, -, apart⟩ candidate held taken
    exact apart _ taken _ (List.mem_map_of_mem held) rfl
  · intro apart
    refine ⟨own, once, ?_⟩
    rintro className taken other held rfl
    obtain ⟨candidate, member, named⟩ := List.mem_map.mp held
    exact apart candidate member (named ▸ taken)

end Listing

/-- However a catalogue was filled, it holds the first arrival of each class and lists it once,
under its category and in the order of arrival. What was linked arrives by class, whatever the order
of linking. So all listed classes are distinct, and the host can tell its plugins apart by them. -/
theorem gathered_holds_firsts {catalogue : Catalogue} {arrivals linked shuffled : List Candidate}
    (gathered : Gathered catalogue arrivals) (same : shuffled.Perm linked) :
    catalogue.candidates = firsts arrivals ∧
      (∀ category, (catalogue.discovery category).Sublist catalogue.candidates ∧
        ∀ candidate, candidate ∈ catalogue.discovery category ↔
          candidate ∈ catalogue.candidates ∧ candidate.descriptor.category = category) ∧
      (Category.bootOrder.flatMap catalogue.discovery).Perm catalogue.candidates ∧
      (ofLinked linked).candidates = sortByClass (firsts linked) ∧
      ((linked.map Candidate.className).Nodup →
        ofLinked shuffled = ofLinked linked ∧ (ofLinked linked).candidates.Perm linked) ∧
      Ascending (ofLinked linked).candidates ∧
      (catalogue.candidates.map Candidate.className).Nodup ∧
      (catalogue.discovery.Distinct ↔ ∀ candidate ∈ catalogue.candidates,
        candidate.className ∉ Builtin.descriptors.map Descriptor.className) := by
  have held : catalogue.candidates = firsts arrivals :=
    congrArg Catalogue.candidates gathered.eq_firsts
  have once : (catalogue.candidates.map Candidate.className).Nodup := by
    rw [held]
    exact firsts_classes arrivals
  refine ⟨held, fun category => ⟨List.filter_sublist, fun candidate => mem_discovery⟩,
    discovery_perm once, by rw [ofLinked_eq], fun linkedOnce => ?_, ofLinked_ascending linked, once,
    discovery_distinct_iff once⟩
  exact ⟨ofLinked_eq_of_perm same linkedOnce, ofLinked_perm linkedOnce⟩

def offered (category : Category) (className name : String) : Candidate where
  descriptor := { category := category, className := className, registration := { name := name } }

/-- Two plugins are linked, and the classes of both turn up again under other categories. -/
theorem gathered_holds_firsts_of_namesakes :
    let clock := offered .provider "Clock" "clock"
    let reader := offered .service "Reader" "reader"
    let later := [offered .interceptor "Audit" "audit", offered .initializer "Reader" "preload"]
    let catalogue := ((ofLinked [reader, clock]).add (offered .service "Clock" "chime")).addAll later
    Gathered catalogue
        (sortByClass [reader, clock] ++ [offered .service "Clock" "chime"] ++ later) ∧
      [clock, reader].Perm [reader, clock] ∧
      catalogue.candidates.map Candidate.name = ["clock", "reader", "audit"] ∧
      ofLinked [clock, reader] = ofLinked [reader, clock] ∧ catalogue.discovery.Distinct := by
  intro clock reader later catalogue
  have gathered : Gathered catalogue
      (sortByClass [reader, clock] ++ [offered .service "Clock" "chime"] ++ later) :=
    .addAll (.add (.linked _) _) _
  have same : [clock, reader].Perm [reader, clock] := .swap _ _ _
  obtain ⟨held, -, -, -, once, -, -, distinct⟩ := gathered_holds_firsts gathered same
  have ascending : Ascending [clock, reader] := List.pairwise_pair.mpr (by decide)
  have sorted : sortByClass [reader, clock] = [clock, reader] :=
    Ascending.eq_of_perm (.sortByClass (by decide)) ascending ((sortByClass_perm _).trans same.symm)
  have names : catalogue.candidates.map Candidate.name = ["clock", "reader", "audit"] := by
    rw [held, sorted]
    decide
  have classes : catalogue.candidates.map Candidate.className = ["Clock", "Reader", "Audit"] := by
    rw [held, sorted]
    decide
  have free : ∀ className ∈ ["Clock", "Reader", "Audit"],
      className ∉ Builtin.descriptors.map Descriptor.className := by decide
  refine ⟨gathered, same, names, (once (by decide)).1, distinct.mpr fun candidate present => ?_⟩
  exact free candidate.className (classes ▸ List.mem_map_of_mem present)

end PluginHost.Catalogue
