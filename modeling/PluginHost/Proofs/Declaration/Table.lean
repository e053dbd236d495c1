import PluginHost.Proofs.Declaration.Keys
import PluginHost.Proofs.Wiring

/-
This file follows a declaration into the table that is derived from it, and concludes that the table
and the dispatch of every plugin that is derived agree.
-/

namespace PluginHost

/-- The field is marked for injection. -/
def DeclaredField.isMarked (field : DeclaredField) : Bool := field.mark.isSome

/-- A marked field wants the value of the provider that its mark names, or of the provider of its
own name. The type of the value is the argument of its slot type. -/
structure DeclaredField.Wants (field : DeclaredField) (injection : FieldInjection) : Prop where
  name : field.name = some injection.field
  provider : field.mark = some (.named injection.provider) ∨
    field.mark = some .unnamed ∧ injection.provider = injection.field
  type : TypePath.Applied slotName field.type injection.declaredType.name

namespace DeclaredField

variable {field : DeclaredField} {fields : List DeclaredField}

theorem injected_eq_ok {name provider : String} {wanted : Option FieldInjection}
    (read : injection.injected field name provider = .ok wanted) :
    ∃ type, TypePath.Applied slotName field.type type ∧
      wanted = some ⟨name, ⟨type⟩, provider⟩ := by
  unfold injection.injected at read
  split at read
  · rename_i type found
    cases read
    exact ⟨type, TypePath.argumentOf?_eq_some found, rfl⟩
  · cases read

/-- What a field is read to want is nothing if it is not marked, and else what it wants. -/
theorem injection_eq_ok {wanted : Option FieldInjection} (read : field.injection = .ok wanted) :
    field.mark = none ∧ wanted = none ∨
      ∃ marked injection, field.mark = some marked ∧ wanted = some injection ∧
        field.Wants injection := by
  unfold injection at read
  split at read
  · rename_i unmarked
    cases read
    exact .inl ⟨unmarked, rfl⟩
  · cases read
  · cases read
  · rename_i provider name marked named
    obtain ⟨type, applied, rfl⟩ := injected_eq_ok read
    exact .inr ⟨_, _, marked, rfl, named, .inl marked, applied⟩
  · rename_i name marked named
    obtain ⟨type, applied, rfl⟩ := injected_eq_ok read
    exact .inr ⟨_, _, marked, rfl, named, .inr ⟨marked, rfl⟩, applied⟩

/-- The marked fields are read in the order of their declaration. -/
theorem mapM_injection {wanted : List (Option FieldInjection)}
    (read : fields.mapM injection = .ok wanted) :
    List.Forall₂ Wants (fields.filter isMarked) (wanted.filterMap id) := by
  induction fields generalizing wanted with
  | nil =>
      cases read
      exact .nil
  | cons field rest ih =>
      rw [List.mapM_cons] at read
      obtain ⟨first, here, continued⟩ := ok_of_bind read
      obtain ⟨others, later, same⟩ := ok_of_bind continued
      cases same
      rcases injection_eq_ok here with ⟨unmarked, rfl⟩ | ⟨mark, injection, marked, rfl, wants⟩
      · have skipped : ¬ field.isMarked = true := by simp [isMarked, unmarked]
        rw [List.filter_cons_of_neg skipped, List.filterMap_cons_none rfl]
        exact ih later
      · have chosen : field.isMarked = true := by simp [isMarked, marked]
        rw [List.filter_cons_of_pos chosen]
        exact .cons wants (ih later)

theorem filterMap_name {marked : List DeclaredField} {injections : List FieldInjection}
    (wants : List.Forall₂ Wants marked injections) :
    marked.filterMap DeclaredField.name = injections.map FieldInjection.field := by
  induction wants with
  | nil => rfl
  | cons first _ ih => rw [List.filterMap_cons_some first.name, ih, List.map_cons]

end DeclaredField

/-- The table lists the marked fields in the order of their declaration, and behind them the hooks
in the order in which the keys list them, with their repetitions. -/
structure Tabulates (declaration : Declaration) (wiring : Wiring) : Prop where
  fields : List.Forall₂ DeclaredField.Wants (declaration.fields.filter DeclaredField.isMarked)
    wiring.fields
  hooks : ∃ lists, List.Forall₂ Lists declaration.attached lists ∧ wiring.hooks = lists.flatten
  table : wiring.injections = wiring.fields.map .field ++ wiring.hooks.map fun method =>
    .method ⟨method, identityOf (declaration.name ++ "::" ++ method)⟩

namespace Declaration

variable {declaration : Declaration} {wiring : Wiring}

theorem wiring_tabulates (derives : declaration.wiring = .ok wiring) :
    Tabulates declaration wiring := by
  unfold Declaration.wiring at derives
  obtain ⟨keys, read, continued⟩ := ok_of_bind derives
  obtain ⟨lists, listed, gathered⟩ := Keys.foldlM_lists read
  by_cases structural : (!declaration.isStructure) = true
  · rw [if_pos structural] at continued
    cases continued
  · rw [if_neg structural] at continued
    obtain ⟨wanted, fields, same⟩ := ok_of_bind continued
    cases same
    exact ⟨DeclaredField.mapM_injection fields, ⟨lists, listed, gathered⟩, rfl⟩

/-- The fields of a structure have different names, and so have those that are marked. -/
theorem injectable_nodup (tabulates : Tabulates declaration wiring)
    (distinct : (declaration.fields.filterMap DeclaredField.name).Nodup) :
    wiring.injectable.Nodup := by
  rw [Wiring.injectable, ← DeclaredField.filterMap_name tabulates.fields]
  exact distinct.sublist (List.filter_sublist.filterMap _)

/-- What is derived from a declaration hangs together: the table lists what is declared, the
dispatch serves what the table lists, and no injection of such a plugin comes upon a gap between the
two. -/
theorem wiring_agrees (derives : declaration.wiring = .ok wiring)
    (distinct : (declaration.fields.filterMap DeclaredField.name).Nodup) :
    Tabulates declaration wiring ∧ wiring.Dispatches ∧
      ∀ providers pending world, Injection.Wired wiring pending world →
        Injection.KeepsShape providers pending.record →
          Injection.Supplied providers wiring pending world := by
  have tabulates := wiring_tabulates derives
  exact ⟨tabulates, Wiring.dispatches (injectable_nodup tabulates distinct),
    fun providers pending world wired keeps => wired.supplied keeps⟩

/-- A declaration with two attributes, which list one hook twice, and with a field that is not
marked. -/
def engine : Declaration where
  name := "Engine"
  attached := ["crate = demo::host<A, B>, post_construct(prime, turn)", "post_construct(turn,)"]
  fields := [⟨some "fuel", "Injected<String>", some .unnamed⟩, ⟨some "load", "u64", none⟩,
    ⟨some "spark", "demo::Injected<Vec<u8>>", some (.named "sparks")⟩]

def engineWiring : Wiring where
  title := "Engine"
  fields := [⟨"fuel", ⟨"String"⟩, "fuel"⟩, ⟨"spark", ⟨"Vec<u8>"⟩, "sparks"⟩]
  hooks := ["prime", "turn", "turn"]

/-- The engine has the table that its declaration spells out, and an instance of it is wired. -/
theorem wiring_agrees_of_engine :
    let pending : Pending :=
      ⟨engineWiring.descriptor "demo" .service { name := "engine" },
        .make (engineWiring.descriptor "demo" .service { name := "engine" }) []
          ⟨0, engineWiring.quiet⟩⟩
    let world := (({} : World).enroll "engine" engineWiring.quiet ()).2
    engine.wiring = .ok engineWiring ∧ (engine.fields.filterMap DeclaredField.name).Nodup ∧
      Injection.Wired engineWiring pending world ∧
        Tabulates engine engineWiring ∧ Injection.Supplied [] engineWiring pending world := by
  intro pending world
  have derives : engine.wiring = .ok engineWiring := by decide +kernel
  have distinct : (engine.fields.filterMap DeclaredField.name).Nodup := by decide
  have wired : Injection.Wired engineWiring pending world :=
    ⟨rfl, ⟨fun _ memory => ⟨.done (), memory, []⟩, rfl⟩, Slots.shape_empty _⟩
  obtain ⟨tabulates, -, supplied⟩ := wiring_agrees derives distinct
  exact ⟨derives, distinct, wired, tabulates,
    supplied [] pending world wired (List.forall_mem_nil _)⟩

end Declaration

end PluginHost
