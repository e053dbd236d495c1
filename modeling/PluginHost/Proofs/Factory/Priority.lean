import PluginHost.Factory
import PluginHost.Proofs.Ordered

/-
This file says in which order a category is built. The order is ascending in priority, and what has
one priority stays in the order of discovery.
-/

namespace PluginHost.Factory

/-- The sorted candidates are the listed ones, ascending in priority, and those of one priority
stand in the order of the listing. -/
structure InPriorityOrder (listed sorted : List Candidate) : Prop where
  perm : sorted.Perm listed
  ascending : sorted.Pairwise fun first second =>
    first.descriptor.priority ≤ second.descriptor.priority
  stable : ∀ priority : Int32,
    (sorted.filter fun candidate => candidate.descriptor.priority == priority) =
      listed.filter fun candidate => candidate.descriptor.priority == priority

namespace InPriorityOrder

variable {listed sorted : List Candidate}

theorem iff_sortedBy : InPriorityOrder listed sorted ↔
    SortedBy (fun candidate => candidate.descriptor.priority) listed sorted :=
  ⟨fun order => ⟨order.perm, order.ascending, order.stable⟩,
    fun order => ⟨order.perm, order.ascending, order.stable⟩⟩

theorem mem_iff (order : InPriorityOrder listed sorted) {candidate : Candidate} :
    candidate ∈ sorted ↔ candidate ∈ listed := order.perm.mem_iff

/-- Whatever is left out on one side is left out on the other. -/
theorem filter (order : InPriorityOrder listed sorted) (keeps : Candidate → Bool) :
    InPriorityOrder (listed.filter keeps) (sorted.filter keeps) :=
  iff_sortedBy.mpr ((iff_sortedBy.mp order).filter keeps)

/-- The candidates listed determine their order. -/
theorem unique {other : List Candidate} (order : InPriorityOrder listed sorted)
    (also : InPriorityOrder listed other) : sorted = other :=
  (iff_sortedBy.mp order).unique (iff_sortedBy.mp also)

end InPriorityOrder

theorem sortByPriority_inPriorityOrder (candidates : List Candidate) :
    InPriorityOrder candidates (sortByPriority candidates) :=
  InPriorityOrder.iff_sortedBy.mpr (sortedBy_mergeSort _ candidates)

end PluginHost.Factory
