import PluginHost.Proofs.Settings.Sources

/-
This file shows that every source of settings is a table. Each name at the top is therefore joined
on its own, and no source hides what another one has under a different name.
-/

namespace PluginHost

open Document

namespace Document

theorem isTable_laidOver (upper lower : Document) :
    (upper.laidOver lower).isTable = upper.isTable := by
  cases upper with
  | table origin members => cases lower <;> rfl
  | _ => rfl

theorem isTable_stacked (lowest : Document) (layers : List Document) :
    (stacked lowest layers).isTable = ((layers.getLast?).getD lowest).isTable := by
  induction layers generalizing lowest with
  | nil => rfl
  | cons layer rest ih =>
      rw [stacked_cons, ih, List.getLast?_cons]
      cases rest.getLast? with
      | none => exact isTable_laidOver layer lowest
      | some last => rfl

/-- What layers have under one name. -/
def named (layers : List Document) (name : String) : List Document :=
  layers.filterMap fun layer => layer.at? [name]

theorem named_append (lowers uppers : List Document) (name : String) :
    named (lowers ++ uppers) name = named lowers name ++ named uppers name :=
  List.filterMap_append

theorem named_cons (layer : Document) (rest : List Document) (name : String) :
    named (layer :: rest) name = (layer.at? [name]).toList ++ named rest name := by
  rw [named, List.filterMap_cons]
  cases layer.at? [name] <;> rfl

/-- Values of one name laid over each other, the first one lowest. -/
def overlaid : List Document → Option Document
  | [] => none
  | lowest :: rest => some (stacked lowest rest)

/-- Whether values make a table is up to the last one, whatever lies below them. -/
theorem isTable_overlaid {values : List Document} {value : Document}
    (made : overlaid values = some value) (lowest : Document) :
    value.isTable = (stacked lowest values).isTable := by
  cases values with
  | nil => cases made
  | cons first rest =>
      cases made
      rw [isTable_stacked, isTable_stacked, List.getLast?_cons, Option.getD_some]

theorem at?_laidOver_name {upper lower : Document} (upperTable : upper.isTable = true)
    (lowerTable : lower.isTable = true) (name : String) :
    (upper.laidOver lower).at? [name] = overlaid (named [lower, upper] name) := by
  obtain ⟨origin, uppers, rfl⟩ := exists_members upperTable
  obtain ⟨other, lowers, rfl⟩ := exists_members lowerTable
  rw [laidOver, at?_name, find?_membersLaidOver, named_cons, named_cons, at?_name, at?_name]
  cases Table.find? uppers name <;> cases Table.find? lowers name <;> rfl

/-- In layers that are tables, each name is joined on its own. -/
theorem at?_stacked_name {layers : List Document} {lowest : Document}
    (tables : ∀ layer ∈ layers, layer.isTable = true) (lowestTable : lowest.isTable = true)
    (name : String) : (stacked lowest layers).at? [name] = overlaid (named (lowest :: layers) name) := by
  induction layers generalizing lowest with
  | nil =>
      rw [named_cons]
      change lowest.at? [name] = _
      cases lowest.at? [name] <;> rfl
  | cons layer rest ih =>
      obtain ⟨first, later⟩ := List.forall_mem_cons.mp tables
      rw [stacked_cons, ih later ((isTable_laidOver layer lowest).trans first), named_cons,
        at?_laidOver_name first lowestTable, named_cons, named_cons, named_cons, named_cons]
      cases lowest.at? [name] <;> cases layer.at? [name] <;> rfl

/-- The root of a document that hangs below a proper path is a table. -/
theorem isTable_nest (origin : Option Origin) {path : List String} (proper : path ≠ [])
    (named : ∀ part ∈ path, part.isEmpty = false) (document : Document) :
    (nest origin path document).isTable = true := by
  obtain ⟨part, rest, rfl⟩ := List.exists_cons_of_ne_nil proper
  rw [nest, named part List.mem_cons_self]
  rfl

end Document

namespace Environment

theorem document_isTable (environment : Environment) : environment.document.isTable = true := by
  rw [document_eq_stacked, isTable_stacked]
  cases last : environment.layers.getLast? with
  | none => rfl
  | some layer =>
      obtain ⟨entry, -, named⟩ := List.mem_filterMap.mp (List.mem_of_getLast? last)
      obtain ⟨path, read, rfl⟩ := Option.map_eq_some_iff.mp named
      obtain ⟨name, -, split⟩ := Option.bind_eq_some_iff.mp read
      obtain ⟨proper, filled⟩ := path?_proper split
      exact isTable_nest origin proper filled _

end Environment

theorem Override.document_isTable {override : Override} {document : Document}
    (given : override.document = .ok document) : document.isTable = true := by
  cases override with
  | whole settings => cases given; rfl
  | entry key value =>
      rw [Override.document] at given
      split at given
      · cases given; rfl
      · cases given

namespace Loader

theorem fileDocument?_isTable {disk : Disk} {path : Path} {document : Document}
    (read : fileDocument? disk path = some document) : document.isTable = true := by
  rw [fileDocument?] at read
  split at read
  · obtain ⟨entries, -, rfl⟩ := Option.map_eq_some_iff.mp read
    rfl
  · cases read; rfl

theorem files_tables {disk : Disk} {paths : List Path} {files : List Document}
    (read : paths.mapM (fileDocument? disk) = some files) :
    ∀ file ∈ files, file.isTable = true := by
  induction paths generalizing files with
  | nil => cases read; intro file member; cases member
  | cons path rest ih =>
      rw [List.mapM_cons] at read
      obtain ⟨first, here, more⟩ := Option.bind_eq_some_iff.mp read
      obtain ⟨later, behind, same⟩ := Option.bind_eq_some_iff.mp more
      cases same
      exact List.forall_mem_cons.mpr ⟨fileDocument?_isTable here, ih behind⟩

theorem overrides_tables {overrides : List Override} {documents : List Document}
    (given : overrides.mapM Override.document = .ok documents) :
    ∀ document ∈ documents, document.isTable = true := by
  induction overrides generalizing documents with
  | nil => cases given; intro document member; cases member
  | cons override rest ih =>
      rw [List.mapM_cons] at given
      obtain ⟨first, here, more⟩ := ok_of_bind given
      obtain ⟨later, behind, same⟩ := ok_of_bind more
      cases same
      exact List.forall_mem_cons.mpr ⟨Override.document_isTable here, ih behind⟩

theorem join_table {layers : List Document} (tables : ∀ layer ∈ layers, layer.isTable = true) :
    ∃ members, join layers = .table none members := by
  have root : (stacked (.table none []) layers).isTable = true := by
    rw [isTable_stacked]
    cases last : layers.getLast? with
    | none => rfl
    | some layer => exact tables layer (List.mem_of_getLast? last)
  obtain ⟨origin, members, same⟩ := exists_members root
  refine ⟨members, ?_⟩
  rw [join, ← stacked, same]

theorem at?_join_name {layers : List Document} (tables : ∀ layer ∈ layers, layer.isTable = true)
    (name : String) : (join layers).at? [name] = overlaid (named layers name) := by
  rw [at?_join, at?_stacked_name tables rfl]
  rfl

end Loader

namespace Loader

variable {loader : Loader} {environment : Environment} {files overrides : List Document}

theorem layered_tables (loader : Loader) (environment : Environment)
    (fileTables : ∀ file ∈ files, file.isTable = true)
    (overrideTables : ∀ document ∈ overrides, document.isTable = true) :
    ∀ layer ∈ loader.layered environment files overrides, layer.isTable = true := by
  obtain ⟨members, joined⟩ := join_table overrideTables
  rw [layered, between]
  refine List.forall_mem_cons.mpr ⟨rfl, List.forall_mem_append.mpr
    ⟨List.forall_mem_append.mpr ⟨fileTables, fun layer member => ?_⟩,
      List.forall_mem_singleton.mpr (by rw [joined]; rfl)⟩⟩
  split at member
  · rw [List.mem_singleton.mp member]
    exact environment.document_isTable
  · cases member

/-- The joined document is a table in order, and it comes from no source. -/
theorem join_layered (tables : ∀ layer ∈ loader.layered environment files overrides,
      layer.isTable = true) :
    ∃ members, join (loader.layered environment files overrides) = .table none members ∧
      Table.Ascending members := by
  obtain ⟨members, joined⟩ := join_table tables
  have held : (join (loader.layered environment files overrides)).HasTable [] := by
    refine hasTable_join ⟨_, _, rfl, by rw [Table.Ascending]; decide⟩ fun layer member => ?_
    intro before after same found there
    obtain ⟨rfl, -⟩ := List.append_eq_nil_iff.mp same.symm
    rw [← Option.some.inj there]
    exact tables layer (List.mem_cons_of_mem _ member)
  obtain ⟨origin, same, equal, ascending⟩ := exists_ascending held
  rw [joined] at equal
  cases equal
  exact ⟨members, joined, ascending⟩

end Loader

end PluginHost
