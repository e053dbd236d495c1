import PluginHost.Proofs.Table
import PluginHost.Settings.Loader

/-
This file looks values up in layered documents. Along a path on which every layer has tables and at
whose end none has one, the joined document holds the value of the last layer that has one there.
-/

namespace PluginHost

namespace Document

/-- The value at the end of a path of names. -/
def at? : Document → List String → Option Document
  | document, [] => some document
  | .table _ members, part :: rest => (Table.find? members part).bind fun member => member.at? rest
  | _, _ :: _ => none

def isTable : Document → Bool
  | .table .. => true
  | _ => false

/-- At the end of the path there is no table, and on the way to it there is nothing else. -/
structure Settles (document : Document) (path : List String) : Prop where
  value : ∀ found, document.at? path = some found → found.isTable = false
  above : ∀ before part after, path = before ++ part :: after →
    ∀ found, document.at? before = some found → found.isTable = true

theorem at?_table (origin : Option Origin) (members : List (String × Document)) (part : String)
    (rest : List String) :
    (table origin members).at? (part :: rest) =
      (Table.find? members part).bind fun member => member.at? rest := rfl

theorem at?_name (origin : Option Origin) (members : List (String × Document)) (name : String) :
    (table origin members).at? [name] = Table.find? members name := by
  rw [at?_table]
  cases Table.find? members name <;> rfl

theorem exists_members {document : Document} (table : document.isTable = true) :
    ∃ origin members, document = .table origin members := by
  cases document with
  | table origin members => exact ⟨origin, members, rfl⟩
  | _ => cases table

theorem settles_nil (document : Document) : document.Settles [] ↔ document.isTable = false := by
  constructor
  · exact fun settles => settles.value document rfl
  · intro bare
    refine ⟨fun found same => Option.some.inj same ▸ bare, fun before part after absurd => ?_⟩
    cases before <;> cases absurd

/-- A path settles from its first step on. -/
theorem settles_cons (document : Document) (part : String) (rest : List String) :
    document.Settles (part :: rest) ↔ ∃ origin members, document = .table origin members ∧
      ∀ member, Table.find? members part = some member → member.Settles rest := by
  constructor
  · intro settles
    obtain ⟨origin, members, rfl⟩ := exists_members (settles.above [] part rest rfl document rfl)
    refine ⟨origin, members, rfl, fun member found => ⟨fun value at? => ?_, ?_⟩⟩
    · exact settles.value value (by rw [at?_table, found]; exact at?)
    · intro before other after same value at?
      refine settles.above (part :: before) other after (by rw [same]; rfl) value ?_
      rw [at?_table, found]
      exact at?
  · rintro ⟨origin, members, rfl, below⟩
    constructor
    · intro value at?
      obtain ⟨member, found, inner⟩ := Option.bind_eq_some_iff.mp at?
      exact (below member found).value value inner
    · intro before other after same value at?
      cases before with
      | nil => rw [← Option.some.inj at?]; rfl
      | cons first before =>
          obtain ⟨rfl, rfl⟩ := List.cons.inj same
          obtain ⟨member, found, inner⟩ := Option.bind_eq_some_iff.mp at?
          exact (below member found).above before other after rfl value inner

instance decidableSettles : (path : List String) → (document : Document) →
    Decidable (document.Settles path)
  | [], document => decidable_of_iff _ (settles_nil document).symm
  | part :: rest, .table origin members =>
    match found : Table.find? members part with
    | none => isTrue <| (settles_cons _ part rest).mpr
        ⟨origin, members, rfl, fun member held => by rw [found] at held; cases held⟩
    | some member =>
      have := decidableSettles rest member
      decidable_of_iff (member.Settles rest)
        ⟨fun settles => (settles_cons _ part rest).mpr ⟨origin, members, rfl, fun other held => by
          rw [found] at held
          rwa [← Option.some.inj held]⟩,
        fun settles => by
          obtain ⟨other, inner, same, below⟩ := (settles_cons _ part rest).mp settles
          cases same
          exact below member found⟩
  | part :: rest, .leaf origin value => isFalse fun settles => by
      obtain ⟨other, members, same, -⟩ := (settles_cons _ part rest).mp settles
      cases same
  | part :: rest, .list origin items => isFalse fun settles => by
      obtain ⟨other, members, same, -⟩ := (settles_cons _ part rest).mp settles
      cases same

/-- A member is joined with the one of its name below. -/
theorem find?_membersLaidOver (uppers lowers : List (String × Document)) (name : String) :
    Table.find? (membersLaidOver uppers lowers) name =
      match Table.find? uppers name, Table.find? lowers name with
      | some upper, some lower => some (upper.laidOver lower)
      | some upper, none => some upper
      | none, below => below := by
  induction uppers with
  | nil => rfl
  | cons entry rest ih =>
      obtain ⟨other, upper⟩ := entry
      rw [membersLaidOver, Table.find?_insert, Table.find?_cons]
      by_cases here : name = other
      · subst here
        rw [if_pos rfl, if_pos rfl]
        cases Table.find? lowers name <;> rfl
      · rw [if_neg here, if_neg here]
        exact ih

theorem ascending_membersLaidOver (uppers : List (String × Document))
    {lowers : List (String × Document)} (ascending : Table.Ascending lowers) :
    Table.Ascending (membersLaidOver uppers lowers) := by
  induction uppers with
  | nil => exact ascending
  | cons entry rest ih => exact ih.insert _ _

theorem laidOver_of_bare {upper : Document} (bare : upper.isTable = false) (lower : Document) :
    upper.laidOver lower = upper := by
  cases upper with
  | table origin members => cases bare
  | _ => rfl

/-- Of two layers the upper one counts where it has a value. -/
theorem settles_laidOver {upper lower : Document} {path : List String}
    (upperSettles : upper.Settles path) (lowerSettles : lower.Settles path) :
    (upper.laidOver lower).Settles path ∧
      (upper.laidOver lower).at? path = (upper.at? path).or (lower.at? path) := by
  induction path generalizing upper lower with
  | nil =>
      rw [laidOver_of_bare ((settles_nil upper).mp upperSettles)]
      exact ⟨upperSettles, rfl⟩
  | cons part rest ih =>
      obtain ⟨origin, uppers, rfl, above⟩ := (settles_cons _ part rest).mp upperSettles
      obtain ⟨other, lowers, rfl, below⟩ := (settles_cons _ part rest).mp lowerSettles
      rw [laidOver, settles_cons, at?_table, at?_table, at?_table]
      have joined := find?_membersLaidOver uppers lowers part
      cases upperFound : Table.find? uppers part with
      | none =>
          rw [upperFound] at joined
          rw [joined]
          refine ⟨⟨origin, _, rfl, fun member found => ?_⟩, rfl⟩
          rw [joined] at found
          exact below member found
      | some upper =>
          cases lowerFound : Table.find? lowers part with
          | none =>
              rw [upperFound, lowerFound] at joined
              rw [joined]
              refine ⟨⟨origin, _, rfl, fun member found => ?_⟩, (Option.or_none).symm⟩
              rw [joined] at found
              exact above member (upperFound.trans found)
          | some lower =>
              rw [upperFound, lowerFound] at joined
              obtain ⟨settles, value⟩ := ih (above upper upperFound) (below lower lowerFound)
              rw [joined]
              refine ⟨⟨origin, _, rfl, fun member found => ?_⟩, value⟩
              rw [joined] at found
              rwa [← Option.some.inj found]

/-- The value of the last layer that has one at the end of a path. -/
def lastAt? (layers : List Document) (path : List String) : Option Document :=
  (layers.filterMap fun layer => layer.at? path).getLast?

theorem lastAt?_append (lowers uppers : List Document) (path : List String) :
    lastAt? (lowers ++ uppers) path = (lastAt? uppers path).or (lastAt? lowers path) := by
  rw [lastAt?, List.filterMap_append, List.getLast?_append, lastAt?, lastAt?]

theorem lastAt?_singleton (layer : Document) (path : List String) :
    lastAt? [layer] path = layer.at? path := by
  rw [lastAt?, List.filterMap_cons, List.filterMap_nil]
  cases layer.at? path <;> rfl

theorem lastAt?_cons (layer : Document) (rest : List Document) (path : List String) :
    lastAt? (layer :: rest) path = (lastAt? rest path).or (layer.at? path) := by
  rw [← lastAt?_singleton layer, ← lastAt?_append, List.singleton_append]

/-- Layers laid upon the lowest one, one after the other. -/
def stacked (lowest : Document) (layers : List Document) : Document :=
  layers.foldl (fun lower upper => upper.laidOver lower) lowest

theorem stacked_cons (lowest layer : Document) (rest : List Document) :
    stacked lowest (layer :: rest) = stacked (layer.laidOver lowest) rest := rfl

/-- Of many layers the last one counts that has a value, and the lowest one if none has. -/
theorem settles_stacked {layers : List Document} {lowest : Document} {path : List String}
    (settles : ∀ layer ∈ layers, layer.Settles path) (lowestSettles : lowest.Settles path) :
    (stacked lowest layers).Settles path ∧
      (stacked lowest layers).at? path = (lastAt? layers path).or (lowest.at? path) := by
  induction layers generalizing lowest with
  | nil => exact ⟨lowestSettles, rfl⟩
  | cons layer rest ih =>
      obtain ⟨first, later⟩ := List.forall_mem_cons.mp settles
      obtain ⟨joint, value⟩ := settles_laidOver first lowestSettles
      obtain ⟨all, last⟩ := ih later joint
      exact ⟨all, by rw [stacked_cons, last, value, lastAt?_cons, Option.or_assoc]⟩

/-- At the end of the path there is a table whose names are ascending. -/
def HasTable (document : Document) (path : List String) : Prop :=
  ∃ origin members, document.at? path = some (.table origin members) ∧ Table.Ascending members

theorem exists_ascending {document : Document} (held : document.HasTable []) :
    ∃ origin members, document = .table origin members ∧ Table.Ascending members := by
  obtain ⟨origin, members, same, ascending⟩ := held
  exact ⟨origin, members, Option.some.inj same, ascending⟩

theorem hasTable_cons {origin : Option Origin} {members : Table Document} {part : String}
    {rest : List String} (held : (table origin members).HasTable (part :: rest)) :
    ∃ inner, Table.find? members part = some inner ∧ inner.HasTable rest := by
  obtain ⟨innerOrigin, innerMembers, at?, ascending⟩ := held
  obtain ⟨inner, found, below⟩ := Option.bind_eq_some_iff.mp at?
  exact ⟨inner, found, innerOrigin, innerMembers, below, ascending⟩

/-- Along the path there are tables only, its end included. -/
def Passes (document : Document) (path : List String) : Prop :=
  ∀ before after, path = before ++ after →
    ∀ found, document.at? before = some found → found.isTable = true

theorem Settles.passes {document : Document} {before after : List String} {part : String}
    (settles : document.Settles (before ++ part :: after)) : document.Passes before := by
  rintro start rest rfl found at?
  cases rest with
  | nil => exact settles.above start part after (by simp) found at?
  | cons next rest =>
      exact settles.above start next (rest ++ part :: after) (by simp) found at?

theorem Passes.member {origin : Option Origin} {members : List (String × Document)}
    {part : String} {rest : List String} {member : Document}
    (passes : (table origin members).Passes (part :: rest))
    (found : Table.find? members part = some member) : member.Passes rest := by
  rintro before after rfl value at?
  refine passes (part :: before) after rfl value ?_
  rw [at?_table, found]
  exact at?

/-- What is laid over an ascending table leaves it ascending. -/
theorem hasTable_laidOver {upper lower : Document} {path : List String}
    (passes : upper.Passes path) (held : lower.HasTable path) :
    (upper.laidOver lower).HasTable path := by
  obtain ⟨origin, uppers, rfl⟩ := exists_members (passes [] path rfl upper rfl)
  induction path generalizing origin uppers lower with
  | nil =>
      obtain ⟨other, lowers, same, ascending⟩ := held
      cases Option.some.inj same
      exact ⟨origin, _, rfl, ascending_membersLaidOver uppers ascending⟩
  | cons part rest ih =>
      obtain ⟨other, members, at?, ascending⟩ := held
      cases lower with
      | table lowerOrigin lowers =>
          obtain ⟨inner, lowerFound, innerAt?⟩ := Option.bind_eq_some_iff.mp at?
          have joined := find?_membersLaidOver uppers lowers part
          rw [lowerFound] at joined
          rw [HasTable, laidOver, at?_table, joined]
          cases upperFound : Table.find? uppers part with
          | none => exact ⟨other, members, innerAt?, ascending⟩
          | some upper =>
              have below := passes.member upperFound
              obtain ⟨upperOrigin, uppers, rfl⟩ := exists_members (below [] rest rfl upper rfl)
              exact ih ⟨other, members, innerAt?, ascending⟩ upperOrigin uppers below
      | _ => cases at?

/-- Laid over nothing, a document keeps its tables. -/
theorem hasTable_laidOver_empty {document : Document} {path : List String}
    (held : document.HasTable path) (origin : Option Origin) :
    (document.laidOver (.table origin [])).HasTable path := by
  obtain ⟨other, inner, at?, ascending⟩ := held
  cases document with
  | table upperOrigin members =>
      cases path with
      | nil => exact ⟨upperOrigin, _, rfl, ascending_membersLaidOver members List.Pairwise.nil⟩
      | cons part rest =>
          refine ⟨other, inner, ?_, ascending⟩
          rw [at?_table] at at?
          rw [laidOver, at?_table, find?_membersLaidOver]
          cases found : Table.find? members part with
          | none => rw [found] at at?; cases at?
          | some member => rwa [found] at at?
  | _ => exact ⟨other, inner, at?, ascending⟩

theorem hasTable_stacked {layers : List Document} {lowest : Document} {path : List String}
    (passes : ∀ layer ∈ layers, layer.Passes path) (held : lowest.HasTable path) :
    (stacked lowest layers).HasTable path := by
  induction layers generalizing lowest with
  | nil => exact held
  | cons layer rest ih =>
      obtain ⟨first, later⟩ := List.forall_mem_cons.mp passes
      exact ih later (hasTable_laidOver first held)

end Document

namespace Loader

open Document

/-- The joined document comes from no source, but below its root it is what was laid together. -/
theorem at?_join (layers : List Document) (part : String) (rest : List String) :
    (join layers).at? (part :: rest) = (stacked (.table none []) layers).at? (part :: rest) := by
  rw [join, ← stacked]
  split
  · rename_i same
    rw [same]
    rfl
  · rfl

theorem hasTable_join {lowest : Document} {layers : List Document} {path : List String}
    (held : lowest.HasTable path) (passes : ∀ layer ∈ layers, layer.Passes path) :
    (join (lowest :: layers)).HasTable path := by
  have stands := hasTable_stacked passes (hasTable_laidOver_empty held none)
  cases path with
  | nil =>
      obtain ⟨origin, members, found, ascending⟩ := stands
      refine ⟨none, members, ?_, ascending⟩
      have same : stacked (.table none []) (lowest :: layers) = .table origin members :=
        Option.some.inj found
      rw [join, ← stacked, same]
      rfl
  | cons part rest =>
      rw [HasTable, at?_join]
      exact stands

theorem settles_join {layers : List Document} {part : String} {rest : List String}
    (settles : ∀ layer ∈ layers, layer.Settles (part :: rest)) :
    (join layers).Settles (part :: rest) ∧
      (join layers).at? (part :: rest) = lastAt? layers (part :: rest) := by
  have lowest : (Document.table none []).Settles (part :: rest) :=
    (settles_cons _ part rest).mpr ⟨none, [], rfl, fun member found => nomatch found⟩
  obtain ⟨all, last⟩ := settles_stacked settles lowest
  obtain ⟨origin, members, same, below⟩ := (settles_cons _ part rest).mp all
  refine ⟨?_, ?_⟩
  · rw [join, ← stacked, same]
    exact (settles_cons _ part rest).mpr ⟨none, members, rfl, below⟩
  · rw [at?_join, last]
    exact Option.or_none

/-- Layers that are joined among themselves first count like the layers themselves. -/
theorem settles_join_join (lowers uppers : List Document) {part : String} {rest : List String}
    (settles : ∀ layer ∈ lowers ++ uppers, layer.Settles (part :: rest)) :
    (join (lowers ++ [join uppers])).Settles (part :: rest) ∧
      (join (lowers ++ [join uppers])).at? (part :: rest) =
        lastAt? (lowers ++ uppers) (part :: rest) := by
  obtain ⟨below, above⟩ := List.forall_mem_append.mp settles
  obtain ⟨upperSettles, upper⟩ := settles_join above
  have together : ∀ layer ∈ lowers ++ [join uppers], layer.Settles (part :: rest) :=
    List.forall_mem_append.mpr ⟨below, List.forall_mem_singleton.mpr upperSettles⟩
  obtain ⟨all, last⟩ := settles_join together
  refine ⟨all, ?_⟩
  rw [last, lastAt?_append, lastAt?_append, lastAt?_singleton, upper]

end Loader

end PluginHost
