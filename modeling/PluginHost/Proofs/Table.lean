import PluginHost.Table
import Mathlib.Data.List.Induction
import Mathlib.Data.List.Nodup

/-
This file says what a table built from entries holds.
-/

namespace PluginHost.Table

variable {α : Type}

/-- Adds entries one after the other. -/
def extend (table : Table α) (entries : List (String × α)) : Table α :=
  entries.foldl (fun table entry => insert table entry.1 entry.2) table

theorem extend_append (table : Table α) (first second : List (String × α)) :
    table.extend (first ++ second) = (table.extend first).extend second :=
  List.foldl_append

theorem ofEntries_nil : ofEntries ([] : List (String × α)) = [] := rfl

theorem ofEntries_append_singleton (entries : List (String × α)) (entry : String × α) :
    ofEntries (entries ++ [entry]) = insert (ofEntries entries) entry.1 entry.2 := by
  simp [ofEntries, List.foldl_append]

theorem find?_insert (table : Table α) (name other : String) (value : α) :
    find? (insert table name value) other =
      if other = name then some value else find? table other := by
  by_cases same : other = name
  · rw [if_pos same, same, find?_insert_self]
  · rw [if_neg same, find?_insert_of_ne table value same]

theorem mem_of_find?_ofEntries {entries : List (String × α)} {name : String} {value : α}
    (found : (ofEntries entries).find? name = some value) : (name, value) ∈ entries := by
  induction entries using List.reverseRecOn with
  | nil => simp [ofEntries_nil] at found
  | append_singleton entries entry ih =>
      rw [ofEntries_append_singleton, find?_insert] at found
      rw [List.mem_append, List.mem_singleton]
      by_cases same : name = entry.1
      · rw [if_pos same, Option.some.injEq] at found
        right
        rw [same, ← found]
      · rw [if_neg same] at found
        exact .inl (ih found)

theorem find?_ofEntries_isSome {entries : List (String × α)} {name : String} :
    ((ofEntries entries).find? name).isSome = true ↔ name ∈ entries.map Prod.fst := by
  induction entries using List.reverseRecOn with
  | nil => simp [ofEntries_nil]
  | append_singleton entries entry ih =>
      rw [ofEntries_append_singleton, find?_insert, List.map_append, List.mem_append]
      by_cases same : name = entry.1
      · simp [same]
      · simp [same, ih]

/-- With distinct names the table holds exactly the entries. -/
theorem find?_ofEntries_iff {entries : List (String × α)}
    (distinct : (entries.map Prod.fst).Nodup) {name : String} {value : α} :
    (ofEntries entries).find? name = some value ↔ (name, value) ∈ entries := by
  refine ⟨mem_of_find?_ofEntries, fun member => ?_⟩
  have known : name ∈ entries.map Prod.fst := List.mem_map_of_mem member
  obtain ⟨held, found⟩ := Option.isSome_iff_exists.mp (find?_ofEntries_isSome.mpr known)
  have same := List.inj_on_of_nodup_map distinct (mem_of_find?_ofEntries found) member rfl
  rw [found, (Prod.mk.inj same).2]

/-- Leaving out names changes nothing for the others. -/
theorem find?_ofEntries_filter (keeps : String → Bool) (entries : List (String × α))
    {name : String} (kept : keeps name = true) :
    (ofEntries (entries.filter fun entry => keeps entry.1)).find? name =
      (ofEntries entries).find? name := by
  induction entries using List.reverseRecOn with
  | nil => rfl
  | append_singleton entries entry ih =>
      rw [List.filter_append, ofEntries_append_singleton, find?_insert]
      by_cases same : name = entry.1
      · rw [List.filter_cons, if_pos (by rwa [← same]), List.filter_nil,
          ofEntries_append_singleton, find?_insert, if_pos same, if_pos same]
      · rw [if_neg same, ← ih]
        by_cases stays : keeps entry.1 = true
        · rw [List.filter_cons, if_pos stays, List.filter_nil, ofEntries_append_singleton,
            find?_insert, if_neg same]
        · rw [List.filter_cons, if_neg stays, List.filter_nil, List.append_nil]

/-- An entry that was added hides what the table held before. -/
theorem find?_extend (table : Table α) (entries : List (String × α)) (name : String) :
    (table.extend entries).find? name =
      ((ofEntries entries).find? name).or (table.find? name) := by
  induction entries using List.reverseRecOn with
  | nil => rfl
  | append_singleton entries entry ih =>
      have added : table.extend (entries ++ [entry]) =
          insert (table.extend entries) entry.1 entry.2 := extend_append table entries [entry]
      rw [added, find?_insert, ofEntries_append_singleton, find?_insert, ih]
      by_cases same : name = entry.1
      · rw [if_pos same, if_pos same]
        rfl
      · rw [if_neg same, if_neg same]

theorem find?_extend_of_mem (table : Table α) {entries : List (String × α)}
    (distinct : (entries.map Prod.fst).Nodup) {name : String} {value : α}
    (member : (name, value) ∈ entries) : (table.extend entries).find? name = some value := by
  rw [find?_extend, (find?_ofEntries_iff distinct).mpr member, Option.some_or]

theorem find?_erase (table : Table α) (erased name : String) :
    (erase table erased).find? name = if name = erased then none else table.find? name := by
  induction table with
  | nil => simp [erase]
  | cons entry rest ih =>
      rw [erase, List.filter_cons]
      by_cases dropped : entry.1 = erased
      · rw [if_neg (by simp [dropped])]
        change find? (erase rest erased) name = _
        rw [ih, find?_cons]
        by_cases same : name = erased
        · simp [same]
        · have other : name ≠ entry.1 := fun equal => same (equal.trans dropped)
          simp [same, other]
      · rw [if_pos (by simp [dropped]), find?_cons, find?_cons]
        change (if name = entry.1 then some entry.2 else find? (erase rest erased) name) = _
        rw [ih]
        by_cases here : name = entry.1
        · simp [here, dropped]
        · simp [here]

/-- The names are ascending, so each of them has at most one value. -/
def Ascending (table : Table α) : Prop := table.Pairwise fun first second => first.1 < second.1

theorem mem_insert {table : Table α} {name : String} {value : α} {entry : String × α}
    (member : entry ∈ insert table name value) : entry = (name, value) ∨ entry ∈ table := by
  induction table with
  | nil => exact .inl (List.mem_singleton.mp member)
  | cons first rest ih =>
      rw [insert] at member
      split at member
      · exact (List.mem_cons.mp member).imp_right (List.mem_cons_of_mem first)
      · split at member
        · exact List.mem_cons.mp member
        · rcases List.mem_cons.mp member with rfl | later
          · exact .inr List.mem_cons_self
          · exact (ih later).imp_right (List.mem_cons_of_mem first)

theorem Ascending.insert {table : Table α} (ascending : Ascending table) (name : String)
    (value : α) : Ascending (insert table name value) := by
  induction table with
  | nil => exact List.pairwise_singleton _ _
  | cons first rest ih =>
      obtain ⟨behind, tail⟩ := List.pairwise_cons.mp ascending
      rw [Table.insert]
      split
      · rename_i same
        exact List.pairwise_cons.mpr ⟨fun other member => same ▸ behind other member, tail⟩
      · rename_i different
        split
        · rename_i before
          refine List.pairwise_cons.mpr ⟨fun other member => ?_, ascending⟩
          rcases List.mem_cons.mp member with rfl | later
          · exact before
          · exact String.lt_trans before (behind other later)
        · rename_i after
          refine List.pairwise_cons.mpr ⟨fun other member => ?_, ih tail⟩
          rcases mem_insert member with rfl | later
          · have above := String.not_lt.mp after
            by_contra below
            exact different (String.le_antisymm (String.not_lt.mp below) above)
          · exact behind other later

theorem mem_of_find? {table : Table α} {name : String} {value : α}
    (found : table.find? name = some value) : (name, value) ∈ table := by
  induction table with
  | nil => cases found
  | cons first rest ih =>
      rw [find?_cons] at found
      split at found
      · rename_i same
        rw [same, ← Option.some.inj found]
        exact List.mem_cons_self
      · exact List.mem_cons_of_mem first (ih found)

theorem Ascending.find?_iff {table : Table α} (ascending : Ascending table) {name : String}
    {value : α} : table.find? name = some value ↔ (name, value) ∈ table := by
  refine ⟨mem_of_find?, fun member => ?_⟩
  induction table with
  | nil => cases member
  | cons first rest ih =>
      obtain ⟨behind, tail⟩ := List.pairwise_cons.mp ascending
      rw [find?_cons]
      rcases List.mem_cons.mp member with rfl | later
      · rw [if_pos rfl]
      · have before : first.1 < name := behind _ later
        rw [if_neg fun same => String.lt_irrefl name (by rwa [← same] at before)]
        exact ih tail later

/-- Two ascending tables that hold the same are the same. -/
theorem Ascending.ext {first second : Table α} (firstAscending : Ascending first)
    (secondAscending : Ascending second)
    (same : ∀ name, first.find? name = second.find? name) : first = second := by
  have nodup {table : Table α} (ascending : Ascending table) : table.Nodup := by
    refine List.Pairwise.imp (fun before => ?_) ascending
    rintro rfl
    exact String.lt_irrefl _ before
  have members : first.Perm second := by
    rw [List.perm_ext_iff_of_nodup (nodup firstAscending) (nodup secondAscending)]
    rintro ⟨name, value⟩
    rw [← firstAscending.find?_iff, ← secondAscending.find?_iff, same]
  refine members.eq_of_pairwise (fun _ _ _ _ before after => ?_) firstAscending secondAscending
  exact (String.lt_irrefl _ (String.lt_trans before after)).elim

/-- A name behind all others is added at the end. -/
theorem insert_last {table : Table α} {name : String} (value : α)
    (behind : ∀ entry ∈ table, entry.1 < name) :
    insert table name value = table ++ [(name, value)] := by
  induction table with
  | nil => rfl
  | cons first rest ih =>
      obtain ⟨before, others⟩ := List.forall_mem_cons.mp behind
      have differs : ¬ name = first.1 := fun same => String.lt_irrefl _ (same ▸ before)
      have after : ¬ name < first.1 := fun above =>
        String.lt_irrefl _ (String.lt_trans before above)
      rw [insert, if_neg differs, if_neg after, ih others]
      rfl

theorem Ascending.of_names {table : Table α} {names : List String}
    (ascending : names.Pairwise (· < ·)) (same : table.map Prod.fst = names) :
    Ascending table := by
  subst same
  exact List.pairwise_map.mp ascending

theorem find?_eq_none_iff {table : Table α} {name : String} :
    table.find? name = none ↔ name ∉ table.map Prod.fst := by
  simp only [find?, List.lookup_eq_none_iff, bne_iff_ne, List.mem_map, not_exists, not_and]
  exact forall₂_congr fun entry _ => ne_comm

/-- Tables with the same names hold their values at the same places. -/
theorem find?_zip {first second : Table α} (names : first.map Prod.fst = second.map Prod.fst)
    {name : String} {value other : α} (held : first.find? name = some value)
    (also : second.find? name = some other) :
    ((name, value), (name, other)) ∈ first.zip second := by
  induction first generalizing second with
  | nil => cases held
  | cons entry rest ih =>
      cases second with
      | nil => cases also
      | cons entryAlso restAlso =>
          obtain ⟨key, here⟩ := entry
          obtain ⟨keyAlso, hereAlso⟩ := entryAlso
          obtain ⟨head, tail⟩ := List.cons.inj names
          cases head
          rw [find?_cons] at held also
          by_cases same : name = key
          · rw [if_pos same, Option.some.injEq] at held also
            rw [← same, ← held, ← also]
            exact List.mem_cons_self
          · rw [if_neg same] at held also
            exact List.mem_cons_of_mem _ (ih tail held also)

theorem find?_map {β : Type} (f : α → β) (table : Table α) (name : String) :
    Table.find? (table.map fun entry => (entry.1, f entry.2)) name = (table.find? name).map f := by
  induction table with
  | nil => rfl
  | cons first rest ih =>
      rw [List.map_cons, find?_cons, find?_cons, ih]
      split <;> rfl

end PluginHost.Table
