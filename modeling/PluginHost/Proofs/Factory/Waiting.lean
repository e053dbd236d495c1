import PluginHost.Proofs.Factory.Yield

/-
This file says which plugins wait for injection once their category is built. Each waits with the
record it was built with, because no other one has its class.
-/

namespace PluginHost

variable {ι : Type}

/-- A built plugin waits when it wants something injected. -/
def Built.waiting? (kind : Kind ι) (built : Built ι) : Option Pending :=
  if built.descriptor.injections.isEmpty then none
  else some ⟨built.descriptor, built.record.erase kind⟩

theorem Built.mem_filterMap_waiting? {kind : Kind ι} {built : List (Built ι)} {pending : Pending} :
    pending ∈ built.filterMap (waiting? kind) ↔
      ∃ plugin ∈ built, plugin.descriptor.injections.isEmpty = false ∧
        pending = ⟨plugin.descriptor, plugin.record.erase kind⟩ := by
  rw [List.mem_filterMap]
  refine exists_congr fun plugin => and_congr_right fun _ => ?_
  rw [waiting?]
  cases plugin.descriptor.injections.isEmpty with
  | true => simp
  | false => simp [eq_comm]

namespace Factory

variable {sections : Sections} {kind : Kind ι}

/-- What a descriptor adds to the plugins that wait. -/
def waiting? (records : Table (Record (Live Plugin))) (descriptor : Descriptor) :
    Option Pending :=
  if descriptor.injections.isEmpty then none
  else (records.find? descriptor.className).map fun record => ⟨descriptor, record⟩

theorem waiting?_eq_some_iff {records : Table (Record (Live Plugin))} {descriptor : Descriptor}
    {pending : Pending} :
    waiting? records descriptor = some pending ↔
      descriptor.injections.isEmpty = false ∧ ∃ record,
        records.find? descriptor.className = some record ∧ pending = ⟨descriptor, record⟩ := by
  rw [waiting?, Option.ite_none_left_eq_some, Option.map_eq_some_iff, Bool.not_eq_true]
  simp only [eq_comm]

theorem waiting?_congr {records others : Table (Record (Live Plugin))} {descriptor : Descriptor}
    (same : records.find? descriptor.className = others.find? descriptor.className) :
    waiting? records descriptor = waiting? others descriptor := by
  rw [waiting?, waiting?, same]

theorem enqueue_eq (factory : Factory) (descriptor : Descriptor) :
    factory.enqueue descriptor =
      { factory with
        pending := factory.pending ++ (waiting? factory.records descriptor).toList } := by
  rw [enqueue, waiting?, record?]
  cases descriptor.injections.isEmpty with
  | true => simp
  | false =>
      cases factory.records.find? descriptor.className with
      | none => simp
      | some record => simp

theorem enqueueAll (factory : Factory) (descriptors : List Descriptor) :
    descriptors.foldl enqueue factory =
      { factory with
        pending := factory.pending ++ descriptors.filterMap (waiting? factory.records) } := by
  induction descriptors generalizing factory with
  | nil => simp
  | cons descriptor rest ih =>
      rw [List.foldl_cons, ih, enqueue_eq, List.filterMap_cons]
      cases waiting? factory.records descriptor with
      | none => simp
      | some pending => simp

/-- A built plugin is found under its class. -/
theorem find?_entry (kind : Kind ι) (records : Table (Record (Live Plugin)))
    {built : List (Built ι)} (distinct : (built.map Built.className).Nodup) {plugin : Built ι}
    (member : plugin ∈ built) :
    (records.extend (built.map (entry kind))).find? plugin.className =
      some (plugin.record.erase kind) := by
  apply Table.find?_extend_of_mem
  · rw [List.map_map]
    exact distinct
  · exact List.mem_map_of_mem member

theorem waiting?_entry (records : Table (Record (Live Plugin))) {built : List (Built ι)}
    (distinct : (built.map Built.className).Nodup) {plugin : Built ι} (member : plugin ∈ built) :
    waiting? (records.extend (built.map (entry kind))) plugin.descriptor =
      plugin.waiting? kind := by
  have found := find?_entry kind records distinct member
  rw [Built.className] at found
  rw [waiting?, Built.waiting?, found]
  rfl

/-- What was just built waits in the order in which it was built. -/
theorem enqueue_built {factory : Factory} {records : Table (Record (Live Plugin))}
    {built : List (Built ι)} (distinct : (built.map Built.className).Nodup)
    (kept : factory.records = records.extend (built.map (entry kind))) :
    (built.map Built.descriptor).foldl enqueue factory =
      { factory with pending := factory.pending ++ built.filterMap (Built.waiting? kind) } := by
  rw [enqueueAll, List.filterMap_map, kept]
  have same : built.filterMap (waiting? (records.extend (built.map (entry kind))) ∘
      Built.descriptor) = built.filterMap (Built.waiting? kind) :=
    List.filterMap_congr fun plugin member => waiting?_entry records distinct member
  rw [same]

end Factory

end PluginHost
