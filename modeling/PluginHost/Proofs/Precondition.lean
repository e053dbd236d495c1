import PluginHost.Precondition
import PluginHost.Proofs.Graph.Served
import PluginHost.Proofs.Table

/-
This file proves that the precondition of a plugin and the validation of providers agree. A further
provider of a new name is valid exactly when it passes the precondition against the others.
-/

namespace PluginHost

namespace ValidProviders

variable {validation : Validation} {types : TypeTable} {name : String}

theorem of_find? {provider : ValidProvider}
    (found : (ofValidation validation types).find? name = some provider) :
    ∃ descriptor ∈ validation.valid, descriptor.name = name ∧
      descriptor.className = provider.className ∧
        types.find? name = some provider.produced := by
  have entry := Table.mem_of_find?_ofEntries found
  simp only [List.mem_filterMap, Option.map_eq_some_iff, Prod.mk.injEq] at entry
  obtain ⟨descriptor, valid, produced, typed, rfl, rfl⟩ := entry
  exact ⟨descriptor, valid, rfl, rfl, typed⟩

theorem find?_isSome :
    ((ofValidation validation types).find? name).isSome = true ↔
      validation.isValid name = true ∧ (types.find? name).isSome = true := by
  rw [ofValidation, Table.find?_ofEntries_isSome, Validation.isValid, List.any_eq_true]
  simp only [List.mem_map, List.mem_filterMap, Option.map_eq_some_iff, beq_iff_eq]
  constructor
  · rintro ⟨entry, ⟨descriptor, valid, produced, typed, rfl⟩, rfl⟩
    exact ⟨⟨descriptor, valid, rfl⟩, Option.isSome_of_eq_some typed⟩
  · rintro ⟨⟨descriptor, valid, rfl⟩, known⟩
    obtain ⟨produced, typed⟩ := Option.isSome_iff_exists.mp known
    exact ⟨_, ⟨descriptor, valid, produced, typed, rfl⟩, rfl⟩

end ValidProviders

namespace Precondition

/-- A field is served by a valid provider whose type it can hold. -/
theorem servesField_iff {validation : Validation} {types : TypeTable} {field : FieldInjection} :
    servesField (.ofValidation validation types) field = true ↔
      validation.isValid field.provider = true ∧
        ∃ found, types.find? field.provider = some found ∧
          found.isAssignableTo field.declaredType = true := by
  rw [servesField]
  cases served : (ValidProviders.ofValidation validation types).find? field.provider with
  | none =>
      have unserved : ¬ ((ValidProviders.ofValidation validation types).find?
          field.provider).isSome = true := by simp [served]
      rw [ValidProviders.find?_isSome, not_and] at unserved
      constructor
      · intro impossible
        cases impossible
      · rintro ⟨valid, found, typed, -⟩
        exact absurd (Option.isSome_of_eq_some typed) (unserved valid)
  | some provider =>
      obtain ⟨descriptor, valid, named, -, typed⟩ := ValidProviders.of_find? served
      have isValid : validation.isValid field.provider = true :=
        List.any_eq_true.mpr ⟨descriptor, valid, beq_iff_eq.mpr named⟩
      constructor
      · intro fits
        exact ⟨isValid, provider.produced, typed, fits⟩
      · rintro ⟨-, found, alsoTyped, fits⟩
        rw [typed, Option.some.injEq] at alsoTyped
        rw [← alsoTyped] at fits
        exact fits

theorem holds_iff {valid : ValidProviders} {sections : Sections} {descriptor : Descriptor}
    (enabled : sections.enables descriptor = true) :
    holds valid sections descriptor = true ↔
      ∀ field ∈ descriptor.fields, servesField valid field = true := by
  rw [holds, enabled, Bool.not_true, Bool.false_or, List.all_eq_true]

/-- The precondition against valid providers asks for served names and fitting types. -/
theorem holds_iff_served {providers : List Descriptor} {sections : Sections} {types : TypeTable}
    {descriptor : Descriptor} (enabled : sections.enables descriptor = true) :
    holds (.ofValidation (Graph.ofProviders providers sections types).validate types) sections
        descriptor = true ↔
      ∀ field ∈ descriptor.fields, Graph.Served providers sections types field.provider ∧
        ∃ found, types.find? field.provider = some found ∧
          found.isAssignableTo field.declaredType = true := by
  rw [holds_iff enabled]
  simp only [servesField_iff, Graph.isValid_iff_served]

end Precondition

namespace Graph

section OfProviders

variable {providers : List Descriptor} {sections : Sections} {types : TypeTable}
  {descriptor : Descriptor}

/-- A valid provider is the only enabled one of its name and was instantiated. -/
theorem mem_valid_spec (kept : descriptor ∈ (ofProviders providers sections types).validate.valid) :
    descriptor ∈ providers ∧ sections.enables descriptor = true ∧
      types.contains descriptor.name = true ∧
        ∀ other ∈ providers, sections.enables other = true → other.name = descriptor.name →
          other = descriptor := by
  obtain ⟨node, grounded, rfl⟩ := (mem_valid_iff (ofProviders_distinct ..)).mp kept
  obtain ⟨enabled, typed⟩ := isCandidate_iff.mp grounded.candidate
  have listed := ofProviders_descriptors providers sections types
  refine ⟨?_, enabled, typed, ?_⟩
  · rw [← listed]
    exact List.mem_map_of_mem grounded.member
  · intro other otherIn otherEnabled named
    rw [← listed] at otherIn
    obtain ⟨otherNode, otherMember, rfl⟩ := List.mem_map.mp otherIn
    rw [grounded.alone otherNode otherMember otherEnabled named]

/-- Every field of a valid provider passes the check against the valid providers. -/
theorem servesField_of_mem_valid
    (kept : descriptor ∈ (ofProviders providers sections types).validate.valid)
    {field : FieldInjection} (fieldIn : field ∈ descriptor.fields) :
    Precondition.servesField
      (.ofValidation (ofProviders providers sections types).validate types) field = true := by
  obtain ⟨node, grounded, rfl⟩ := (mem_valid_iff (ofProviders_distinct ..)).mp kept
  obtain ⟨provider, held, providerGrounded⟩ := grounded.server fieldIn
  rw [Precondition.servesField_iff, isValid_iff_served, served_iff]
  exact ⟨⟨provider, providerGrounded, name_of_holder? held⟩, grounded.fits fieldIn⟩

/-- The only enabled provider of its name is valid when it was instantiated and has no fields. -/
theorem mem_valid_of_fields_nil
    (only : (providers.filter fun other =>
      other.name == descriptor.name && sections.enables other) = [descriptor])
    (typed : types.contains descriptor.name = true) (fieldless : descriptor.fields = []) :
    descriptor ∈ (ofProviders providers sections types).validate.valid := by
  have served : Served providers sections types descriptor.name := by
    refine .intro only typed (fun field fieldIn => ?_) fun field fieldIn => ?_
    · rw [fieldless] at fieldIn
      cases fieldIn
    · rw [fieldless] at fieldIn
      cases fieldIn
  obtain ⟨other, otherKept, named⟩ := List.any_eq_true.mp (isValid_iff_served .. |>.mpr served)
  obtain ⟨listed, enabled, -, -⟩ := mem_valid_spec otherKept
  have holds : other ∈ providers.filter fun other =>
      other.name == descriptor.name && sections.enables other := by
    rw [List.mem_filter, named, enabled]
    exact ⟨listed, rfl⟩
  rw [only, List.mem_singleton] at holds
  rwa [← holds]

end OfProviders

/-- The only provider of a name is valid when the name is. -/
theorem mem_valid_iff_isValid {before after : List Descriptor} {descriptor : Descriptor}
    {sections : Sections} {types : TypeTable}
    (fresh : ∀ other ∈ before ++ after, other.name ≠ descriptor.name) :
    descriptor ∈ (ofProviders (before ++ descriptor :: after) sections types).validate.valid ↔
      (ofProviders (before ++ descriptor :: after) sections types).validate.isValid
        descriptor.name = true := by
  rw [Validation.isValid, List.any_eq_true]
  constructor
  · intro kept
    exact ⟨descriptor, kept, beq_self_eq_true _⟩
  · rintro ⟨other, kept, named⟩
    obtain ⟨listed, -, -, -⟩ := mem_valid_spec kept
    rw [beq_iff_eq] at named
    rw [List.mem_append, List.mem_cons] at listed
    rcases listed with earlier | rfl | later
    · exact absurd named (fresh other (List.mem_append_left after earlier))
    · exact kept
    · exact absurd named (fresh other (List.mem_append_right before later))

/-- A further provider of a new name is valid exactly when it passes the precondition against the
providers that are valid without it. -/
theorem mem_valid_insert_iff_holds (before after : List Descriptor) (descriptor : Descriptor)
    (sections : Sections) (types : TypeTable) (enabled : sections.enables descriptor = true)
    (fresh : ∀ other ∈ before ++ after, other.name ≠ descriptor.name)
    (typed : types.contains descriptor.name = true) :
    descriptor ∈ (ofProviders (before ++ descriptor :: after) sections types).validate.valid ↔
      Precondition.holds
        (.ofValidation (ofProviders (before ++ after) sections types).validate types) sections
        descriptor = true := by
  rw [mem_valid_iff_isValid fresh, isValid_iff_served, served_insert_iff enabled fresh typed,
    Precondition.holds_iff_served enabled]

/-- A provider of the name that wants a value from another one. -/
def asking (name provider : String) : Descriptor where
  category := .provider
  className := name
  registration := { name := name }
  injections := [.field ⟨"value", ⟨"Text"⟩, provider⟩]

/-- The further provider stands between one that needs it and one that it needs. -/
theorem mem_valid_insert_iff_holds_of_cycle :
    let first := asking "first" "second"
    let second := asking "second" "third"
    let third := asking "third" "first"
    let types : TypeTable := [("first", ⟨"Text"⟩), ("second", ⟨"Text"⟩), ("third", ⟨"Text"⟩)]
    Sections.enables [] second = true ∧
      (∀ other ∈ [first] ++ [third], other.name ≠ second.name) ∧
      types.contains second.name = true ∧
      (second ∈ (ofProviders ([first] ++ second :: [third]) [] types).validate.valid ↔
        Precondition.holds
          (.ofValidation (ofProviders ([first] ++ [third]) [] types).validate types) [] second =
            true) := by
  intro first second third types
  have enabled : Sections.enables [] second = true := rfl
  have fresh : ∀ other ∈ [first] ++ [third], other.name ≠ second.name := by decide
  have typed : types.contains second.name = true := rfl
  exact ⟨enabled, fresh, typed,
    mem_valid_insert_iff_holds [first] [third] second [] types enabled fresh typed⟩

end Graph

end PluginHost
