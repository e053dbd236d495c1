import PluginHost.Proofs.Graph.Validation

/-
This file says the same of names that is said of nodes elsewhere. What a name can be relied on for
depends on no position, so two lists of providers can be compared by it.
-/

namespace PluginHost.Graph

/-- The least predicate under which a name has one enabled holder whose fields name only names of
the predicate. -/
inductive Served (providers : List Descriptor) (sections : Sections) (types : TypeTable) :
    String → Prop where
  | intro {name : String} {descriptor : Descriptor}
      (only : (providers.filter fun other => other.name == name && sections.enables other) =
        [descriptor])
      (typed : types.contains name = true)
      (served : ∀ field ∈ descriptor.fields, Served providers sections types field.provider)
      (fits : ∀ field ∈ descriptor.fields, ∃ found, types.find? field.provider = some found ∧
        found.isAssignableTo field.declaredType = true) : Served providers sections types name

section OfProviders

variable (providers : List Descriptor) (sections : Sections) (types : TypeTable)

theorem holders_descriptors (name : String) :
    ((ofProviders providers sections types).holders name).map Node.descriptor =
      providers.filter fun other => other.name == name && sections.enables other := by
  conv_rhs => rw [← ofProviders_descriptors providers sections types, List.filter_map]
  rfl

/-- A name is served exactly when a grounded node has it. -/
theorem served_iff {name : String} :
    Served providers sections types name ↔
      ∃ node, (ofProviders providers sections types).Grounded node ∧
        node.descriptor.name = name := by
  have distinct := ofProviders_distinct providers sections types
  constructor
  · intro served
    induction served with
    | @intro name descriptor only typed served fits ih =>
        rw [← holders_descriptors providers sections types] at only
        obtain ⟨node, alone, rfl⟩ := List.map_eq_singleton_iff.mp only
        have holds : node ∈ (ofProviders providers sections types).holders name := by
          rw [alone]
          exact List.mem_singleton_self node
        obtain ⟨member, rfl, enabled⟩ := mem_holders.mp holds
        refine ⟨node, grounded_iff.mpr ⟨member, isCandidate_iff.mpr ⟨enabled, typed⟩,
          (holders_eq_singleton_iff distinct member enabled).mp alone, ?_⟩, rfl⟩
        intro field fieldIn
        obtain ⟨provider, grounded, named⟩ := ih field fieldIn
        exact ⟨provider, named, grounded, fits field fieldIn⟩
  · rintro ⟨node, grounded, rfl⟩
    induction grounded with
    | @intro node member candidate alone server named grounded fits ih =>
        obtain ⟨enabled, typed⟩ := isCandidate_iff.mp candidate
        have only : (providers.filter fun other =>
            other.name == node.descriptor.name && sections.enables other) = [node.descriptor] := by
          rw [← holders_descriptors providers sections types,
            (holders_eq_singleton_iff distinct member enabled).mpr alone]
          rfl
        refine .intro only typed (fun field fieldIn => ?_) fits
        rw [← named field fieldIn]
        exact ih field fieldIn

theorem isValid_iff_served {name : String} :
    (ofProviders providers sections types).validate.isValid name = true ↔
      Served providers sections types name := by
  rw [served_iff, Validation.isValid, List.any_eq_true]
  simp only [mem_valid_iff (ofProviders_distinct providers sections types), beq_iff_eq]
  constructor
  · rintro ⟨descriptor, ⟨node, grounded, rfl⟩, named⟩
    exact ⟨node, grounded, named⟩
  · rintro ⟨node, grounded, named⟩
    exact ⟨node.descriptor, ⟨node, grounded, rfl⟩, named⟩

end OfProviders

section Insert

variable {before after : List Descriptor} {descriptor : Descriptor} {sections : Sections}
  {types : TypeTable}

/-- A provider of a new name changes nothing for the other names. -/
theorem filter_insert_of_ne {name : String} (differs : descriptor.name ≠ name) :
    ((before ++ descriptor :: after).filter fun other =>
        other.name == name && sections.enables other) =
      (before ++ after).filter fun other => other.name == name && sections.enables other := by
  have skipped : ¬ (descriptor.name == name && sections.enables descriptor) = true := by
    simp [differs]
  rw [List.filter_append, List.filter_append, List.filter_cons, if_neg skipped]

theorem filter_insert_self (enabled : sections.enables descriptor = true)
    (fresh : ∀ other ∈ before ++ after, other.name ≠ descriptor.name) :
    ((before ++ descriptor :: after).filter fun other =>
        other.name == descriptor.name && sections.enables other) = [descriptor] := by
  have skipped (others : List Descriptor) (within : ∀ other ∈ others, other ∈ before ++ after) :
      (others.filter fun other =>
        other.name == descriptor.name && sections.enables other) = [] := by
    rw [List.filter_eq_nil_iff]
    intro other member
    simp [fresh other (within other member)]
  rw [List.filter_append, List.filter_cons, if_pos (by simp [enabled]),
    skipped before (fun other member => List.mem_append_left after member),
    skipped after (fun other member => List.mem_append_right before member), List.nil_append]

theorem Served.name_ne (fresh : ∀ other ∈ before ++ after, other.name ≠ descriptor.name)
    {name : String} (served : Served (before ++ after) sections types name) :
    descriptor.name ≠ name := by
  obtain ⟨only, -, -, -⟩ := served
  rename_i holder
  have holds : holder ∈ (before ++ after).filter fun other =>
      other.name == name && sections.enables other := by
    rw [only]
    exact List.mem_singleton_self holder
  rw [List.mem_filter, Bool.and_eq_true, beq_iff_eq] at holds
  rw [← holds.2.1]
  exact (fresh holder holds.1).symm

/-- What was served stays served beside a provider of a new name. -/
theorem Served.insert (fresh : ∀ other ∈ before ++ after, other.name ≠ descriptor.name)
    {name : String} (served : Served (before ++ after) sections types name) :
    Served (before ++ descriptor :: after) sections types name := by
  induction served with
  | intro only typed served fits ih =>
      have differs := (Served.intro only typed served fits).name_ne fresh
      exact .intro ((filter_insert_of_ne differs).trans only) typed ih fits

/-- Whatever is served beside the new provider is served without it, unless that provider is
served from the others alone. -/
theorem Served.split (enabled : sections.enables descriptor = true)
    (fresh : ∀ other ∈ before ++ after, other.name ≠ descriptor.name) {name : String}
    (served : Served (before ++ descriptor :: after) sections types name) :
    Served (before ++ after) sections types name ∨
      ∀ field ∈ descriptor.fields, Served (before ++ after) sections types field.provider := by
  induction served with
  | @intro name holder only typed served fits ih =>
      by_cases through : ∀ field ∈ holder.fields,
          Served (before ++ after) sections types field.provider
      · by_cases itself : descriptor.name = name
        · subst itself
          rw [filter_insert_self enabled fresh] at only
          rw [List.singleton_inj.mp only]
          exact .inr through
        · rw [filter_insert_of_ne itself] at only
          exact .inl (.intro only typed through fits)
      · simp only [not_forall] at through
        obtain ⟨field, fieldIn, unserved⟩ := through
        exact .inr ((ih field fieldIn).resolve_left unserved)

/-- A provider of a new name is served exactly when the others serve its fields. -/
theorem served_insert_iff (enabled : sections.enables descriptor = true)
    (fresh : ∀ other ∈ before ++ after, other.name ≠ descriptor.name)
    (typed : types.contains descriptor.name = true) :
    Served (before ++ descriptor :: after) sections types descriptor.name ↔
      ∀ field ∈ descriptor.fields, Served (before ++ after) sections types field.provider ∧
        ∃ found, types.find? field.provider = some found ∧
          found.isAssignableTo field.declaredType = true := by
  constructor
  · intro served
    have others := (served.split enabled fresh).resolve_left fun alone =>
      alone.name_ne fresh rfl
    obtain ⟨only, -, -, fits⟩ := served
    rw [filter_insert_self enabled fresh] at only
    rw [← List.singleton_inj.mp only] at fits
    exact fun field fieldIn => ⟨others field fieldIn, fits field fieldIn⟩
  · intro served
    exact .intro (filter_insert_self enabled fresh) typed
      (fun field fieldIn => (served field fieldIn).1.insert fresh)
      fun field fieldIn => (served field fieldIn).2

end Insert

end PluginHost.Graph
