import PluginHost.Slot
import Mathlib.Data.List.Basic

/-
This file says what an injection does to the slots of an instance. It fills the first slot of the
name if that slot is empty and takes the type, and it leaves the other slots as they are.
-/

namespace PluginHost.Slots

variable {slots changed front back : Slots} {slot : Slot} {field name : String} {value : Provided}

/-- The names of the slots, each with the type that the slot takes. -/
def shape (slots : Slots) : List (String × TypeInfo) :=
  slots.map fun entry => (entry.1, entry.2.type)

@[simp] theorem shape_empty (fields : List (String × TypeInfo)) :
    (empty fields).shape = fields := by
  simp [shape, empty, Function.comp_def]

theorem content?_cons (entry : String × Slot) (rest : Slots) (name : String) :
    content? (entry :: rest) name =
      if name = entry.1 then entry.2.content else content? rest name := by
  rw [content?, List.lookup_cons]
  by_cases same : name = entry.1
  · simp [same]
  · have differs : (name == entry.1) = false := beq_eq_false_iff_ne.mpr same
    simp [content?, same, differs]

@[simp] theorem content?_empty (fields : List (String × TypeInfo)) (name : String) :
    (empty fields).content? name = none := by
  induction fields with
  | nil => rfl
  | cons first rest ih =>
      change content? ((first.1, { type := first.2 }) :: empty rest) name = none
      rw [content?_cons, ih, ite_self]

/-- A name has no slot, or it has a first one. -/
theorem absent_or_first (slots : Slots) (field : String) :
    (∀ entry ∈ slots, entry.1 ≠ field) ∨ ∃ front slot back,
      slots = front ++ (field, slot) :: back ∧ ∀ entry ∈ front, entry.1 ≠ field := by
  induction slots with
  | nil => exact .inl (List.forall_mem_nil _)
  | cons entry rest ih =>
      obtain ⟨name, slot⟩ := entry
      by_cases here : name = field
      · subst here
        exact .inr ⟨[], slot, rest, rfl, List.forall_mem_nil _⟩
      · rcases ih with absent | ⟨front, first, back, rfl, others⟩
        · exact .inl (List.forall_mem_cons.mpr ⟨here, absent⟩)
        · exact .inr ⟨(name, slot) :: front, first, back, rfl,
            List.forall_mem_cons.mpr ⟨here, others⟩⟩

theorem content?_first (others : ∀ entry ∈ front, entry.1 ≠ field) (name : String) :
    content? (front ++ (field, slot) :: back) name =
      if name = field then slot.content else content? (front ++ back) name := by
  induction front with
  | nil => exact content?_cons (field, slot) back name
  | cons entry rest ih =>
      obtain ⟨here, others⟩ := List.forall_mem_cons.mp others
      rw [List.cons_append, List.cons_append, content?_cons, content?_cons, ih others]
      by_cases same : name = entry.1
      · have differs : name ≠ field := fun equal => here (same.symm.trans equal)
        rw [if_pos same, if_neg differs, if_pos same]
      · rw [if_neg same, if_neg same]

theorem inject_absent (absent : ∀ entry ∈ slots, entry.1 ≠ field) (value : Provided) :
    slots.inject field value = .error (.unknownField field) := by
  induction slots with
  | nil => rfl
  | cons entry rest ih =>
      obtain ⟨here, absent⟩ := List.forall_mem_cons.mp absent
      rw [inject, if_neg here, ih absent]
      rfl

/-- The first slot of the name decides how an injection ends. -/
theorem inject_first (others : ∀ entry ∈ front, entry.1 ≠ field) (slot : Slot) (back : Slots)
    (value : Provided) :
    (front ++ (field, slot) :: back).inject field value =
      (slot.fill field value).map fun filled => front ++ (field, filled) :: back := by
  induction front with
  | nil =>
      rw [List.nil_append, inject, if_pos rfl]
      rfl
  | cons entry rest ih =>
      obtain ⟨here, others⟩ := List.forall_mem_cons.mp others
      rw [List.cons_append, inject, if_neg here, ih others]
      cases slot.fill field value <;> rfl

/-- An injection that succeeds finds an empty slot of the type of the value. -/
theorem inject_eq_ok (filled : slots.inject field value = .ok changed) :
    ∃ front slot back, slots = front ++ (field, slot) :: back ∧
      (∀ entry ∈ front, entry.1 ≠ field) ∧ value.type = slot.type ∧ slot.content = none ∧
        changed = front ++ (field, { slot with content := some value.value }) :: back := by
  rcases absent_or_first slots field with absent | ⟨front, slot, back, rfl, others⟩
  · rw [inject_absent absent] at filled
    cases filled
  · rw [inject_first others] at filled
    by_cases same : value.type = slot.type
    · cases held : slot.content with
      | some content =>
          rw [slot.fill_set field value content same held] at filled
          cases filled
      | none =>
          rw [slot.fill_empty field value same held] at filled
          cases filled
          exact ⟨front, slot, back, rfl, others, same, held, rfl⟩
    · rw [slot.fill_mismatch field value same] at filled
      cases filled

theorem content?_inject (filled : slots.inject field value = .ok changed) :
    slots.content? field = none ∧ ∀ name, changed.content? name =
      if name = field then some value.value else slots.content? name := by
  obtain ⟨front, slot, back, rfl, others, -, empty, rfl⟩ := inject_eq_ok filled
  refine ⟨by rw [content?_first others, if_pos rfl, empty], fun name => ?_⟩
  rw [content?_first others, content?_first others]
  by_cases same : name = field
  · rw [if_pos same, if_pos same]
  · rw [if_neg same, if_neg same, if_neg same]

/-- No injection gives a slot another name or type. -/
theorem shape_inject (filled : slots.inject field value = .ok changed) :
    changed.shape = slots.shape := by
  obtain ⟨front, slot, back, rfl, -, -, -, rfl⟩ := inject_eq_ok filled
  simp [shape]

theorem not_mem_names_iff :
    field ∉ slots.shape.map Prod.fst ↔ ∀ entry ∈ slots, entry.1 ≠ field := by
  rw [shape, List.map_map, List.mem_map, not_exists]
  exact forall_congr' fun entry => not_and

/-- A name is unknown exactly when no slot has it. -/
theorem inject_eq_unknownField_iff :
    slots.inject field value = .error (.unknownField name) ↔
      name = field ∧ field ∉ slots.shape.map Prod.fst := by
  rw [not_mem_names_iff]
  rcases absent_or_first slots field with absent | ⟨front, slot, back, rfl, others⟩
  · rw [inject_absent absent, and_iff_left absent]
    simp [eq_comm]
  · have present : ¬ ∀ entry ∈ front ++ (field, slot) :: back, entry.1 ≠ field := fun never =>
      never (field, slot) (List.mem_append_right _ List.mem_cons_self) rfl
    rw [inject_first others]
    simp only [present, and_false, iff_false]
    by_cases same : value.type = slot.type
    · cases held : slot.content with
      | some content => simp [slot.fill_set field value content same held, Except.map]
      | none => simp [slot.fill_empty field value same held, Except.map]
    · simp [slot.fill_mismatch field value same, Except.map]

end PluginHost.Slots
