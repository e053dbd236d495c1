import PluginHost.Proofs.Settings.Layers
import PluginHost.Proofs.Success

/-
This file looks values up in what is read from a document. A structure or a table holds under a name
what was read from the member of that name.
-/

namespace PluginHost

/-- The value at the end of a path of names. -/
def Json.at? : Json → List String → Option Json
  | value, [] => some value
  | .object members, part :: rest => (Table.find? members part).bind fun member => member.at? rest
  | _, _ :: _ => none

theorem Json.at?_ofMembers (entries : List (String × Json)) (name : String) (rest : List String) :
    (Json.ofMembers entries).at? (name :: rest) =
      (Table.find? (Table.ofEntries entries) name).bind fun member => member.at? rest := rfl

namespace Document

theorem jsonMembers_eq_map (members : List (String × Document)) :
    jsonMembers members = members.map fun member => (member.1, member.2.json) := by
  induction members with
  | nil => rfl
  | cons member rest ih => rw [jsonMembers, ih, List.map_cons]

theorem find?_jsonMembers (members : List (String × Document)) (name : String) :
    Table.find? (jsonMembers members) name = (Table.find? members name).map json := by
  rw [jsonMembers_eq_map]
  exact Table.find?_map json members name

/-- No leaf is read as an object. -/
theorem scalarJson_at? (value : Scalar) (part : String) (rest : List String) :
    (scalarJson value).at? (part :: rest) = none := by
  cases value with
  | float value => rw [scalarJson, Json.ofFloat]; split <;> rfl
  | _ => rfl

theorem json_at? (document : Document) (path : List String) :
    document.json.at? path = (document.at? path).map json := by
  induction path generalizing document with
  | nil => cases document <;> rfl
  | cons part rest ih =>
      cases document with
      | leaf origin value => rw [json, scalarJson_at?]; rfl
      | list origin items => rw [json]; rfl
      | table origin members =>
          rw [json, Json.at?, find?_jsonMembers, at?_table]
          cases Table.find? members part with
          | none => rfl
          | some member => exact ih member

end Document

namespace Read

open Document

variable {α β : Type}

theorem ok_of_located {origin : Option Origin} {name : String} {result : Read α} {value : α}
    (reads : (result.under name).sourced origin = .ok value) : result = .ok value := by
  cases result with
  | error problem => cases reads
  | ok held => exact reads

/-- Only the member of a name brings the outcome to its goal, and no other one takes it away. -/
theorem foldlM_reaches {step : α → String × Document → Read α} {members : Table Document}
    (ascending : Table.Ascending members) {name : String} {member : Document}
    (found : Table.find? members name = some member) (aspect : α → β) {goal : β}
    (own : ∀ value next, step value (name, member) = .ok next → aspect next = goal)
    (other : ∀ entry ∈ members, entry.1 ≠ name → ∀ value next, step value entry = .ok next →
      aspect next = aspect value) {initial result : α}
    (reads : members.foldlM step initial = .ok result) : aspect result = goal := by
  induction members generalizing initial with
  | nil => cases found
  | cons entry rest ih =>
      obtain ⟨behind, tail⟩ := List.pairwise_cons.mp ascending
      obtain ⟨next, taken, later⟩ := ok_of_foldlM_cons reads
      have others := fun entry (member : entry ∈ rest) => other entry (List.mem_cons_of_mem _ member)
      rw [Table.find?_cons] at found
      split at found
      · rename_i here
        subst here
        cases found
        have rests := foldlM_keeps aspect
          (fun entry member => others entry member (String.ne_of_lt (behind entry member)).symm) later
        rw [rests, own initial next taken]
      · exact ih tail found others later

/-- The members of a table are set one after the other. -/
theorem fieldwise_table (dialect : Dialect) (title : String) (fields : List String) (initial : α)
    (set : α → Member → Read α) (origin : Option Origin) (members : Table Document) :
    fieldwise dialect title fields initial set (.table origin members) =
      members.foldlM (fun value member =>
        ((set value ⟨member.1, member.1, member.2⟩).under member.1).sourced origin) initial := by
  have unlimited : checkLength dialect fields (.table origin members) = .ok () := by
    cases dialect <;> rfl
  rw [fieldwise, membersOf, unlimited]
  simp only [bind, Except.bind, List.foldlM_map, Document.origin]
  split
  · rename_i problem failed
    exact failed.symm
  · rename_i value done
    exact done.symm

theorem fieldwise_reaches {dialect : Dialect} {title : String} {fields : List String}
    {initial result : α} {set : α → Member → Read α} {origin : Option Origin}
    {members : Table Document} (ascending : Table.Ascending members) {name : String}
    {member : Document} (found : Table.find? members name = some member) (aspect : α → β) {goal : β}
    (own : ∀ value next, set value ⟨name, name, member⟩ = .ok next → aspect next = goal)
    (other : ∀ entry ∈ members, entry.1 ≠ name → ∀ value next,
      set value ⟨entry.1, entry.1, entry.2⟩ = .ok next → aspect next = aspect value)
    (reads : fieldwise dialect title fields initial set (.table origin members) = .ok result) :
    aspect result = goal := by
  rw [fieldwise_table] at reads
  exact foldlM_reaches ascending found aspect
    (fun value next taken => own value next (ok_of_located taken))
    (fun entry member differs value next taken =>
      other entry member differs value next (ok_of_located taken)) reads

/-- One member of a mapping is read and kept under its name. -/
theorem ok_of_inserted {result : Read α} {origin : Option Origin} {name : String}
    {table next : Table α}
    (reads : (do
      let value ← (result.under name).sourced origin
      return Table.insert table name value) = .ok next) :
    ∃ value, result = .ok value ∧ next = Table.insert table name value := by
  obtain ⟨value, taken, same⟩ := ok_of_bind reads
  exact ⟨value, ok_of_located taken, (Except.ok.inj same).symm⟩

/-- Under every name stands what was read from the member of that name. -/
theorem mapping_find? {read : Document → Read α} {origin : Option Origin}
    {members : Table Document} (ascending : Table.Ascending members) {table : Table α}
    (reads : mapping read (.table origin members) = .ok table) (name : String) :
    (Table.find? members name).map read = (Table.find? table name).map .ok := by
  cases found : Table.find? members name with
  | none =>
      have absent : Table.find? table name = Table.find? [] name := by
        refine foldlM_keeps (fun table => Table.find? table name)
          (fun entry member before next taken => ?_) reads
        obtain ⟨value, -, rfl⟩ := ok_of_inserted taken
        refine Table.find?_insert_of_ne before value fun same => ?_
        rw [same, ascending.find?_iff.mpr member] at found
        cases found
      rw [absent]
      rfl
  | some member =>
      have reached : (Table.find? table name).map Except.ok = some (read member) := by
        refine foldlM_reaches ascending found (fun table => (Table.find? table name).map Except.ok)
          (fun before next taken => ?_) (fun entry _ differs before next taken => ?_) reads
        · obtain ⟨value, held, rfl⟩ := ok_of_inserted taken
          rw [Table.find?_insert_self, held, Option.map_some]
        · obtain ⟨value, -, rfl⟩ := ok_of_inserted taken
          rw [Table.find?_insert_of_ne before value differs.symm]
      rw [reached, Option.map_some]

theorem text_json {document : Document} {value : String} (reads : text document = .ok value) :
    document.json = .text value := by
  unfold text at reads
  split at reads
  · cases reads; rfl
  · cases reads; rfl
  · cases reads

theorem flag_json {document : Document} {value : Bool} (reads : flag document = .ok value) :
    document.json = .flag value := by
  unfold flag at reads
  split at reads
  · cases reads; rfl
  · cases reads

theorem path_json {document : Document} {value : Option String}
    (reads : path document = .ok value) : document.json = (value.map Json.text).getD .null := by
  unfold path at reads
  split at reads
  · cases reads; rfl
  · cases reads; rfl
  · cases reads; rfl
  · cases reads

theorem word_json {document : Document} {value : UInt32} (reads : word document = .ok value) :
    document.json = .integer value.toNat := by
  unfold word at reads
  split at reads
  · split at reads
    · rename_i fits
      cases reads
      rw [json, scalarJson, UInt32.toNat_ofNat_of_lt' fits]
    · cases reads
  · split at reads
    · rename_i fits
      obtain ⟨natural, below⟩ := Bool.and_eq_true_iff.mp fits
      obtain ⟨count, rfl⟩ := Int.eq_ofNat_of_zero_le (of_decide_eq_true natural)
      have fewer : count < Limit.word32 := Int.ofNat_lt.mp (of_decide_eq_true below)
      cases reads
      rw [json, scalarJson, Int.toNat_natCast, UInt32.toNat_ofNat_of_lt' fewer]
    · cases reads
  · cases reads

/-- A text names a variant; a table may do so as well. -/
theorem choice_json {document : Document} (bare : document.isTable = false) {known : Choice α}
    {value : α} (reads : choice .layered known document = .ok value) :
    document.json = .text (known.name value) := by
  unfold choice at reads
  split at reads
  · rename_i origin found
    unfold named at reads
    split at reads
    · rename_i first
      cases reads
      have same := List.find?_some first
      rw [json, scalarJson, eq_of_beq same]
    · cases reads
  all_goals first | cases bare | cases reads

end Read

end PluginHost
