import Mathlib.Data.List.Basic

/-
This file speaks of lists that are kept in ascending order of a key. A stable order is determined
by the list it comes from, however it was reached.
-/

namespace PluginHost

variable {α : Type} {key : α → Int32}

/-- The sorted elements are the listed ones, ascending in their keys, and those of one key stand in
the order of the listing. -/
structure SortedBy (key : α → Int32) (listed sorted : List α) : Prop where
  perm : sorted.Perm listed
  ascending : sorted.Pairwise fun first second => key first ≤ key second
  stable : ∀ value : Int32,
    (sorted.filter fun x => key x == value) = listed.filter fun x => key x == value

/-- In an ascending list, whatever stands behind the keys up to a bound is above the bound. -/
theorem lt_of_mem_dropWhile {sorted : List α}
    (ascending : sorted.Pairwise fun first second => key first ≤ key second) (bound : Int32) :
    ∀ x ∈ sorted.dropWhile fun other => decide (key other ≤ bound), bound < key x := by
  induction sorted with
  | nil => exact fun x absurd => by cases absurd
  | cons first rest ih =>
      rw [List.pairwise_cons] at ascending
      rw [List.dropWhile_cons]
      by_cases within : key first ≤ bound
      · rw [if_pos (decide_eq_true within)]
        exact ih ascending.2
      · rw [if_neg (by simpa using within)]
        have above := Int32.not_le.mp within
        refine List.forall_mem_cons.mpr ⟨above, fun x later => ?_⟩
        exact Int32.lt_of_lt_of_le above (ascending.1 x later)

namespace SortedBy

variable {listed sorted : List α}

theorem of_ascending (ascending : sorted.Pairwise fun first second => key first ≤ key second) :
    SortedBy key sorted sorted :=
  ⟨.refl _, ascending, fun _ => rfl⟩

/-- Whatever is left out on one side is left out on the other. -/
theorem filter (order : SortedBy key listed sorted) (keeps : α → Bool) :
    SortedBy key (listed.filter keeps) (sorted.filter keeps) where
  perm := order.perm.filter keeps
  ascending := order.ascending.sublist List.filter_sublist
  stable := by
    intro value
    rw [List.filter_comm, order.stable, List.filter_comm]

theorem map {β : Type} {keyed : β → Int32} (f : α → β)
    (order : SortedBy (fun x => keyed (f x)) listed sorted) :
    SortedBy keyed (listed.map f) (sorted.map f) where
  perm := order.perm.map f
  ascending := List.pairwise_map.mpr order.ascending
  stable := by
    intro value
    rw [List.filter_map, List.filter_map]
    exact congrArg (List.map f) (order.stable value)

/-- The listed elements determine their order. -/
theorem unique {other : List α} (order : SortedBy key listed sorted)
    (also : SortedBy key listed other) : sorted = other := by
  have same := fun value => (order.stable value).trans (also.stable value).symm
  have members := order.perm.trans also.perm.symm
  have ascending := order.ascending
  have alsoAscending := also.ascending
  clear order also
  induction sorted generalizing other with
  | nil => exact (List.nil_perm.mp members).symm
  | cons first rest ih =>
      cases other with
      | nil => exact absurd (List.perm_nil.mp members) (List.cons_ne_nil first rest)
      | cons second others =>
          rw [List.pairwise_cons] at ascending alsoAscending
          -- Each head stands in the other list, so neither key is above the other.
          have equal : key first = key second := by
            rcases List.mem_cons.mp (members.mem_iff.mp List.mem_cons_self) with rfl | later
            · rfl
            rcases List.mem_cons.mp (members.mem_iff.mpr List.mem_cons_self) with rfl | behind
            · rfl
            exact Int32.le_antisymm (ascending.1 second behind) (alsoAscending.1 first later)
          have heads := same (key first)
          rw [List.filter_cons_of_pos (by simp), List.filter_cons_of_pos (by simp [equal])] at heads
          obtain ⟨rfl, -⟩ := List.cons.inj heads
          congr 1
          refine ih (fun value => ?_) members.cons_inv ascending.2 alsoAscending.2
          have tails := same value
          rw [List.filter_cons, List.filter_cons] at tails
          by_cases here : (key first == value) = true
          · rw [if_pos here, if_pos here] at tails
            exact List.tail_eq_of_cons_eq tails
          · rwa [if_neg here, if_neg here] at tails

/-- A new element fits in between those up to its key and those above it. -/
theorem insert_between {early late : List α} (order : SortedBy key listed (early ++ late)) {x : α}
    (below : ∀ other ∈ early, key other ≤ key x) (above : ∀ other ∈ late, key x < key other) :
    SortedBy key (listed ++ [x]) (early ++ x :: late) := by
  obtain ⟨earlyOrder, lateOrder, across⟩ := List.pairwise_append.mp order.ascending
  refine ⟨?_, ?_, fun value => ?_⟩
  · have moved : (early ++ x :: late).Perm (x :: (early ++ late)) := List.perm_middle
    exact (moved.trans (order.perm.cons x)).trans (List.perm_append_singleton x listed).symm
  · refine List.pairwise_append.mpr ⟨earlyOrder, List.pairwise_cons.mpr ⟨?_, lateOrder⟩, ?_⟩
    · exact fun other behind => Int32.le_of_lt (above other behind)
    · intro other before later member
      rcases List.mem_cons.mp member with rfl | behind
      · exact below other before
      · exact across other before later behind
  · have stable := order.stable value
    rw [List.filter_append] at stable ⊢
    rw [List.filter_append, ← stable, List.filter_cons, List.filter_cons, List.filter_nil]
    by_cases here : (key x == value) = true
    · have nothing : (late.filter fun other => key other == value) = [] := by
        rw [List.filter_eq_nil_iff]
        intro other behind same
        have past := above other behind
        rw [beq_iff_eq.mp here, beq_iff_eq.mp same] at past
        exact Int32.lt_irrefl past
      rw [if_pos here, if_pos here, nothing, List.append_nil]
    · rw [if_neg here, if_neg here, List.append_nil]

/-- A new element goes behind those of its own key. -/
theorem insert (order : SortedBy key listed sorted) (x : α) :
    SortedBy key (listed ++ [x])
      (sorted.takeWhile (fun other => decide (key other ≤ key x)) ++
        x :: sorted.dropWhile fun other => decide (key other ≤ key x)) := by
  have above := lt_of_mem_dropWhile order.ascending (key x)
  have below : ∀ other ∈ sorted.takeWhile (fun other => decide (key other ≤ key x)),
      key other ≤ key x := by
    intro other member
    exact of_decide_eq_true (List.all_eq_true.mp List.all_takeWhile other member)
  rw [← List.takeWhile_append_dropWhile (p := fun other => decide (key other ≤ key x)) (l := sorted)]
    at order
  exact order.insert_between below above

end SortedBy

/-- Merging keeps the order of elements of which none has to stand in front of another. -/
theorem filter_mergeSort {before : α → α → Bool}
    (transitive : ∀ first second third, before first second = true → before second third = true →
      before first third = true)
    (total : ∀ first second, (before first second || before second first) = true)
    (listed : List α) (keeps : α → Bool)
    (tied : ∀ first second, keeps first = true → keeps second = true →
      before first second = true) :
    (listed.mergeSort before).filter keeps = listed.filter keeps := by
  have within : (listed.filter keeps).Sublist (listed.mergeSort before) := by
    apply List.sublist_mergeSort transitive total _ List.filter_sublist
    apply List.pairwise_of_forall_mem_list
    intro first firstIn second secondIn
    exact tied first second (List.mem_filter.mp firstIn).2 (List.mem_filter.mp secondIn).2
  have kept := within.filter keeps
  rw [List.filter_filter] at kept
  simp only [Bool.and_self] at kept
  have perm := (List.mergeSort_perm listed before).filter keeps
  exact (kept.eq_of_length perm.length_eq.symm).symm

/-- Merging sorts in a stable way. -/
theorem sortedBy_mergeSort (key : α → Int32) (listed : List α) :
    SortedBy key listed (listed.mergeSort fun first second => decide (key first ≤ key second)) := by
  have transitive : ∀ first second third : α, decide (key first ≤ key second) = true →
      decide (key second ≤ key third) = true → decide (key first ≤ key third) = true := by
    intro first second third before after
    rw [decide_eq_true_eq] at *
    exact Int32.le_trans before after
  have total : ∀ first second : α,
      (decide (key first ≤ key second) || decide (key second ≤ key first)) = true := by
    intro first second
    rw [Bool.or_eq_true, decide_eq_true_eq, decide_eq_true_eq]
    exact Int32.le_total _ _
  have perm := List.mergeSort_perm listed fun first second => decide (key first ≤ key second)
  refine ⟨perm, ?_, fun value => filter_mergeSort transitive total listed _ ?_⟩
  · exact (List.pairwise_mergeSort transitive total listed).imp of_decide_eq_true
  · intro first second firstKey secondKey
    rw [beq_iff_eq] at firstKey secondKey
    rw [firstKey, secondKey, decide_eq_true_eq]
    exact Int32.le_refl value

end PluginHost
