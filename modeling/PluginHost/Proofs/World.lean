import PluginHost.World

/-
This file says what it means that only calls of one sort are made into plugin code between two
worlds. Memories and the log may change meanwhile.
-/

namespace PluginHost

def Call.IsContract (call : Call) : Prop := ∃ plugin, call = .contract plugin

namespace World

/-- Only allowed calls have been added to the journal. -/
def Grows (allowed : Call → Prop) (before after : World) : Prop :=
  ∃ added, after.journal = before.journal ++ added ∧ ∀ entry ∈ added, allowed entry.call

namespace Grows

variable {allowed : Call → Prop} {before between after : World}

theorem of_journal (same : after.journal = before.journal) : Grows allowed before after :=
  ⟨[], by rw [same, List.append_nil], fun _ absurd => by cases absurd⟩

theorem refl (world : World) : Grows allowed world world := of_journal rfl

theorem trans (first : Grows allowed before between) (second : Grows allowed between after) :
    Grows allowed before after := by
  obtain ⟨early, earlyAdded, earlyCalls⟩ := first
  obtain ⟨late, lateAdded, lateCalls⟩ := second
  refine ⟨early ++ late, by rw [lateAdded, earlyAdded, List.append_assoc], ?_⟩
  intro entry member
  rcases List.mem_append.mp member with first | second
  · exact earlyCalls entry first
  · exact lateCalls entry second

theorem mono {others : Call → Prop} (grows : Grows allowed before after)
    (fits : ∀ call, allowed call → others call) : Grows others before after := by
  obtain ⟨added, journal, calls⟩ := grows
  exact ⟨added, journal, fun entry member => fits entry.call (calls entry member)⟩

theorem report (grows : Grows allowed before after) (event : Log.Event) :
    Grows allowed before (after.report event) := grows

theorem called (world : World) {call : Call} (fits : allowed call) (shown : Bool) :
    Grows allowed world (world.called call shown) :=
  ⟨[⟨call, shown⟩], rfl, fun entry member => by
    rw [List.mem_singleton.mp member]
    exact fits⟩

end Grows

end World

end PluginHost
