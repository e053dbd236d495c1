import PluginHost.Proofs.Settings.Roots

/-
This file follows the second spelling of the plugin arguments through the loader. The defaults
always bring the first spelling with them, so a file that uses the second one is refused.
-/

namespace PluginHost

open Document

namespace Settings

open Read

variable {dialect : Dialect} {members : Table Document} {settings : Settings}

/-- The arguments of plugins may be anything, as long as they stand in a table. -/
theorem arguments_table {document : Document} :
    (∃ arguments, mapping (fun value => .ok value.json) document = .ok arguments) ↔
      document.isTable = true := by
  constructor
  · rintro ⟨arguments, read⟩
    cases document with
    | table origin members => rfl
    | _ => cases read
  · intro table
    obtain ⟨origin, members, rfl⟩ := exists_members table
    exact foldlM_total fun read member _ => ⟨_, rfl⟩

/-- Whether a field can be read does not depend on the settings read so far. -/
theorem setField_steady {state next : Settings × Bool} {member : Member}
    (unspelled : isPluginArgs member.field = false)
    (reads : setField dialect state member = .ok next) (other : Settings × Bool) :
    ∃ after, setField dialect other member = .ok after ∧ after.2 = other.2 := by
  have kept : ¬isPluginArgs member.field = true := by
    rw [unspelled]
    exact Bool.false_ne_true
  rw [setField, if_neg kept] at reads
  rw [setField, if_neg kept]
  split at reads
  · obtain ⟨name, held, -⟩ := ok_of_map reads
    rw [held]
    exact ⟨_, rfl, rfl⟩
  · obtain ⟨logging, held, -⟩ := ok_of_map reads
    rw [held]
    exact ⟨_, rfl, rfl⟩
  · exact ⟨other, rfl, rfl⟩

/-- When everything can be read on its own, a second spelling is what is refused. -/
theorem foldlM_refuses (state : Settings × Bool)
    (spelled : ∀ member ∈ members, isPluginArgs member.1 = true → member.2.isTable = true)
    (others : ∀ member ∈ members, isPluginArgs member.1 = false →
      ∃ state next, setField dialect state ⟨member.1, member.1, member.2⟩ = .ok next)
    (several : 1 < (members.filter fun member => isPluginArgs member.1).length + state.2.toNat) :
    ∃ error : ReadError, members.foldlM (fun state member =>
        ((setField dialect state ⟨member.1, member.1, member.2⟩).under member.1).sourced none)
        state = .error error ∧
      error.problem = .repeatedField "plugins_args" ∧ error.origin = none := by
  induction members generalizing state with
  | nil =>
      have bound := Bool.toNat_le state.2
      rw [List.filter_nil, List.length_nil, Nat.zero_add] at several
      exact absurd several (Nat.not_lt.mpr bound)
  | cons member rest ih =>
      obtain ⟨firstTable, restTables⟩ := List.forall_mem_cons.mp spelled
      obtain ⟨firstRead, restRead⟩ := List.forall_mem_cons.mp others
      rw [List.filter_cons] at several
      rw [List.foldlM_cons]
      cases spelling : isPluginArgs member.1 with
      | false =>
          obtain ⟨before, next, read⟩ := firstRead spelling
          obtain ⟨after, taken, seen⟩ := setField_steady spelling read state
          rw [if_neg (by rw [spelling]; exact Bool.false_ne_true), ← seen] at several
          rw [taken]
          exact ih _ restTables restRead several
      | true =>
          obtain ⟨settings, seen⟩ := state
          rw [setField, if_pos spelling]
          cases seen with
          | true => exact ⟨_, rfl, rfl, rfl⟩
          | false =>
              obtain ⟨arguments, read⟩ := arguments_table.mpr (firstTable spelling)
              rw [if_pos spelling, List.length_cons] at several
              rw [read]
              exact ih _ restTables restRead several

theorem read_refuses {one other : String × Document} (oneMember : one ∈ members)
    (otherMember : other ∈ members) (oneSpelled : isPluginArgs one.1 = true)
    (otherSpelled : isPluginArgs other.1 = true) (differ : one ≠ other)
    (spelled : ∀ member ∈ members, isPluginArgs member.1 = true → member.2.isTable = true)
    (others : ∀ member ∈ members, isPluginArgs member.1 = false →
      ∃ state next, setField dialect state ⟨member.1, member.1, member.2⟩ = .ok next) :
    ∃ error : ReadError, read dialect (.table none members) = .error error ∧
      error.problem = .repeatedField "plugins_args" ∧ error.origin = none := by
  have several : 1 < (members.filter fun member => isPluginArgs member.1).length := by
    by_contra few
    exact differ (eq_of_length_le_one (Nat.not_lt.mp few)
      (List.mem_filter.mpr ⟨oneMember, oneSpelled⟩) (List.mem_filter.mpr ⟨otherMember, otherSpelled⟩))
  obtain ⟨error, refused, problem, origin⟩ :=
    foldlM_refuses ({}, false) spelled others several
  refine ⟨error, ?_, problem, origin⟩
  rw [read, fieldwise_table, refused]
  rfl

/-- The message of a refusal names the field, and no source. -/
theorem refusal_message {error : ReadError} (problem : error.problem = .repeatedField "plugins_args")
    (origin : error.origin = none) : error.layeredMessage = "duplicate field `plugins_args`" := by
  rw [ReadError.layeredMessage, problem, origin]
  rfl

/-- In a document that can be read, every member can. -/
theorem setField_of_read {origin : Option Origin} {member : String × Document}
    (reads : read dialect (.table origin members) = .ok settings) (held : member ∈ members) :
    ∃ state next, setField dialect state ⟨member.1, member.1, member.2⟩ = .ok next := by
  obtain ⟨result, fields, -⟩ := ok_of_map reads
  rw [fieldwise_table] at fields
  obtain ⟨state, next, taken⟩ := ok_of_mem_foldlM fields held
  exact ⟨state, next, ok_of_located taken⟩

theorem isTable_of_read {origin : Option Origin} {member : String × Document}
    (reads : read dialect (.table origin members) = .ok settings) (held : member ∈ members)
    (spelled : isPluginArgs member.1 = true) : member.2.isTable = true := by
  obtain ⟨state, next, taken⟩ := setField_of_read reads held
  obtain ⟨-, arguments, done, -⟩ := setField_spelled spelled taken
  exact arguments_table.mp ⟨arguments, done⟩

end Settings

/-- The other document spells the plugin arguments the second way and is the same otherwise. -/
structure Document.Respells (plain other : Document) : Prop where
  moved : other.at? ["plugins-args"] = plain.at? ["plugins_args"]
  gone : other.at? ["plugins_args"] = none
  same : ∀ name, Settings.isPluginArgs name = false → other.at? [name] = plain.at? [name]

namespace Loader

/-- Neither the environment nor an override has plugin arguments, under either name. -/
structure Silent (loader : Loader) (environment : Environment) : Prop where
  environment : loader.usesEnvironment = true → ∀ name, Settings.isPluginArgs name = true →
    environment.document.at? [name] = none
  overrides : ∀ override ∈ loader.overrides, ∀ document, override.document = .ok document →
    ∀ name, Settings.isPluginArgs name = true → document.at? [name] = none

section

variable {loader : Loader} {environment : Environment} {files plainFiles overrides : List Document}
  {name : String}

theorem named_override (silent : loader.Silent environment)
    (overridden : loader.overrides.mapM Override.document = .ok overrides)
    (spelled : Settings.isPluginArgs name = true) : named overrides name = [] := by
  obtain ⟨-, rfl⟩ := mapM_document.mp overridden
  refine List.filterMap_eq_nil_iff.mpr fun document member => ?_
  obtain ⟨override, listed, given⟩ := List.mem_filterMap.mp member
  refine silent.overrides override listed document ?_ name spelled
  cases held : override.document with
  | error problem => rw [held] at given; cases given
  | ok other =>
      rw [held] at given
      rw [Option.some.inj given]

/-- Only the defaults and the files have plugin arguments. -/
theorem named_layered (silent : loader.Silent environment)
    (overridden : loader.overrides.mapM Override.document = .ok overrides)
    (spelled : Settings.isPluginArgs name = true) :
    named (loader.layered environment files overrides) name =
      ((ofSettings (some .defaults) {}).at? [name]).toList ++ named files name := by
  have unset : named (if loader.usesEnvironment then [environment.document] else []) name =
      [] := by
    split
    · rename_i used
      rw [named_cons, silent.environment used name spelled]
      rfl
    · rfl
  have overrideTables := overrides_tables overridden
  rw [layered, between, named_cons, named_append, named_append, unset, named_cons,
    at?_join_name overrideTables, named_override silent overridden spelled, List.append_nil]
  exact congrArg _ (List.append_nil _)

theorem named_respells (respells : List.Forall₂ Document.Respells plainFiles files) :
    named files "plugins-args" = named plainFiles "plugins_args" ∧
      named files "plugins_args" = [] ∧
      ∀ name, Settings.isPluginArgs name = false → named files name = named plainFiles name := by
  induction respells with
  | nil => exact ⟨rfl, rfl, fun _ _ => rfl⟩
  | cons first later ih =>
      obtain ⟨moved, gone, same⟩ := ih
      refine ⟨?_, ?_, fun name unspelled => ?_⟩
      · rw [named_cons, named_cons, moved, first.moved]
      · rw [named_cons, gone, first.gone]
        rfl
      · rw [named_cons, named_cons, same name unspelled, first.same name unspelled]

/-- Where no source but the defaults and the files has plugin arguments, the other names are joined
as before. -/
theorem named_layered_respells (respells : List.Forall₂ Document.Respells plainFiles files)
    (unspelled : Settings.isPluginArgs name = false) :
    named (loader.layered environment files overrides) name =
      named (loader.layered environment plainFiles overrides) name := by
  rw [layered, layered, between, between, named_cons, named_cons, named_append, named_append,
    named_append, named_append, (named_respells respells).2.2 name unspelled]

/-- The joined document has whatever a layer of it has. -/
theorem overlaid_isSome {layers : List Document} {layer : Document} (name : String)
    (member : layer ∈ layers) (held : (layer.at? [name]).isSome = true) :
    ∃ value, overlaid (named layers name) = some value := by
  obtain ⟨value, found⟩ := Option.isSome_iff_exists.mp held
  have listed : value ∈ named layers name := List.mem_filterMap.mpr ⟨layer, member, found⟩
  cases values : named layers name with
  | nil => rw [values] at listed; cases listed
  | cons first rest => exact ⟨_, rfl⟩

/-- A file with the second spelling makes the joined document have both. -/
theorem both_spellings (fileTables : ∀ file ∈ files, file.isTable = true)
    (overrideTables : ∀ document ∈ overrides, document.isTable = true)
    (spelled : ∃ file ∈ files, (file.at? ["plugins-args"]).isSome = true) :
    ∃ members first second, join (loader.layered environment files overrides) = .table none members ∧
      Table.Ascending members ∧ ("plugins_args", first) ∈ members ∧
      ("plugins-args", second) ∈ members := by
  have tables := layered_tables loader environment fileTables overrideTables
  obtain ⟨members, joined, ascending⟩ := join_layered tables
  obtain ⟨file, listed, held⟩ := spelled
  have lowest : ofSettings (some .defaults) {} ∈ loader.layered environment files overrides :=
    List.mem_cons_self
  have above : file ∈ loader.layered environment files overrides :=
    List.mem_cons_of_mem _ (List.mem_append_left _ (List.mem_append_left _ listed))
  obtain ⟨first, firstFound⟩ := overlaid_isSome "plugins_args" lowest rfl
  obtain ⟨second, secondFound⟩ := overlaid_isSome "plugins-args" above held
  rw [← at?_join_name tables, joined, at?_name] at firstFound secondFound
  exact ⟨members, first, second, joined, ascending, Table.mem_of_find? firstFound,
    Table.mem_of_find? secondFound⟩

/-- Once the plainly spelled document can be read, the plugin arguments of the other one are tables
under either name, and everything else in it can be read. -/
theorem respelled_members {settings : Settings} {plainMembers members : Table Document}
    (plainTables : ∀ layer ∈ loader.layered environment plainFiles overrides, layer.isTable = true)
    (tables : ∀ layer ∈ loader.layered environment files overrides, layer.isTable = true)
    (silent : loader.Silent environment)
    (overridden : loader.overrides.mapM Override.document = .ok overrides)
    (respells : List.Forall₂ Document.Respells plainFiles files)
    (plainJoined : join (loader.layered environment plainFiles overrides) =
      .table none plainMembers)
    (joined : join (loader.layered environment files overrides) = .table none members)
    (ascending : Table.Ascending members)
    (reads : Settings.read .layered (.table none plainMembers) = .ok settings) :
    (∀ member ∈ members, Settings.isPluginArgs member.1 = true → member.2.isTable = true) ∧
      ∀ member ∈ members, Settings.isPluginArgs member.1 = false →
        ∃ state next, Settings.setField .layered state ⟨member.1, member.1, member.2⟩ =
          .ok next := by
  have plainAt (name : String) : Table.find? plainMembers name =
      overlaid (named (loader.layered environment plainFiles overrides) name) := by
    rw [← at?_join_name plainTables, plainJoined, at?_name]
  have here {member : String × Document} (listed : member ∈ members) :
      overlaid (named (loader.layered environment files overrides) member.1) = some member.2 := by
    rw [← at?_join_name tables, joined, at?_name]
    exact ascending.find?_iff.mpr listed
  refine ⟨fun member listed spelled => ?_, fun member listed unspelled => ?_⟩
  · have held := here listed
    rw [named_layered silent overridden spelled] at held
    obtain ⟨moved, gone, -⟩ := named_respells respells
    obtain ⟨name, value⟩ := member
    rcases (Bool.or_eq_true _ _).mp spelled with first | second
    · cases eq_of_beq first
      rw [gone] at held
      rw [← Option.some.inj held]
      rfl
    · cases eq_of_beq second
      rw [moved] at held
      have plainFound := plainAt "plugins_args"
      rw [named_layered silent overridden rfl] at plainFound
      -- The plain document has the same values, but over the empty table of the defaults.
      rw [isTable_overlaid held (.table (some .defaults) [])]
      exact Settings.isTable_of_read reads (Table.mem_of_find? plainFound) rfl
  · refine Settings.setField_of_read reads (Table.mem_of_find? ?_)
    rw [plainAt, ← named_layered_respells respells unspelled]
    exact here listed

/-- When the joined document cannot be read, the problem is what loading ends with. -/
theorem load_refused {surroundings : Surroundings} {paths : List Path} {document : Document}
    {error : ReadError} (found : (loader.files surroundings.disk).1 = .ok paths)
    (joined : loader.document surroundings paths = .ok document)
    (refused : Settings.read .layered document = .error error) :
    (loader.load surroundings).1 = .error (.unreadable error.layeredMessage) := by
  rw [load]
  dsimp only
  rw [found]
  dsimp only
  rw [joined]
  dsimp only
  rw [finish, refused]

end

/-- A configuration does not load when one of its files uses the second spelling. When the plainly
spelled configuration loads, and nothing but its files has plugin arguments, the refusal says that
the field is there twice. -/
theorem load_refuses_alias {loader : Loader} {aliased : Surroundings} {paths : List Path}
    {files : List Document} (found : (loader.files aliased.disk).1 = .ok paths)
    (read : paths.mapM (fileDocument? aliased.disk) = some files)
    (spelled : ∃ file ∈ files, (file.at? ["plugins-args"]).isSome = true) :
    (∀ settings, (loader.load aliased).1 ≠ .ok settings) ∧
      ∀ (plain : Surroundings) (plainFiles : List Document) (settings : Settings),
        plain.environment = aliased.environment →
        (loader.files plain.disk).1 = .ok paths →
        paths.mapM (fileDocument? plain.disk) = some plainFiles →
        List.Forall₂ Document.Respells plainFiles files →
        loader.Silent aliased.environment →
        (loader.load plain).1 = .ok settings →
        (loader.load aliased).1 = .error (.unreadable "duplicate field `plugins_args`") := by
  have fileTables := files_tables read
  constructor
  · intro settings loads
    obtain ⟨overrides, overridden, reads⟩ := load_reads found read loads
    obtain ⟨members, first, second, same, -, firstMember, secondMember⟩ :=
      both_spellings fileTables (overrides_tables overridden) spelled
    rw [same] at reads
    have equal := Settings.read_spellings reads firstMember secondMember rfl rfl
    exact absurd (congrArg Prod.fst equal) (by simp)
  · intro plain plainFiles settings sameEnvironment plainFound plainRead respells silent loads
    obtain ⟨overrides, overridden, reads⟩ := load_reads plainFound plainRead loads
    have overrideTables := overrides_tables overridden
    have plainTables := layered_tables loader plain.environment (files_tables plainRead)
      overrideTables
    obtain ⟨plainMembers, plainJoined, -⟩ := join_layered plainTables
    obtain ⟨members, first, second, same, ascending, firstMember, secondMember⟩ :=
      both_spellings fileTables overrideTables spelled
    rw [plainJoined] at reads
    rw [sameEnvironment] at plainTables plainJoined
    obtain ⟨tables, others⟩ := respelled_members plainTables
      (layered_tables loader _ fileTables overrideTables) silent overridden respells plainJoined same
      ascending reads
    obtain ⟨error, refused, problem, origin⟩ := Settings.read_refuses firstMember secondMember
      rfl rfl (fun equal => absurd (congrArg Prod.fst equal) (by simp)) tables others
    rw [load_refused found (document_eq_ok.mpr ⟨files, overrides, read, overridden, rfl⟩)
      (by rw [same]; exact refused), Settings.refusal_message problem origin]

/-- One directory is searched. -/
def searching : Loader where
  searchPaths := [⟨"etc", true⟩]

/-- The directory has a base file with the given text. -/
def configured (text : String) : Surroundings where
  disk := { known := [(⟨"etc/tessera.development.toml", true⟩, .nowhere),
    (⟨"etc/tessera.toml", true⟩, .file text)] }

/-- A text that is one header is one empty table. -/
theorem read?_header (origin : Option Origin) {name : String}
    (spelled : Settings.isPluginArgs name = true) :
    Toml.read? origin ("[" ++ name ++ "]") =
      some (.table origin [(name, .table origin [])]) := by
  have header : Toml.header? {} ('[' :: (name.toList ++ [']'])) =
      some (⟨[(name, .table false false [])], [name]⟩, []) := by
    rcases (Bool.or_eq_true _ _).mp spelled with first | second
    · cases eq_of_beq first
      have key : Toml.key? "plugins_args]".toList = some (["plugins_args"], [']']) := by
        decide +kernel
      simp at key
      simp [Toml.header?, key, Toml.mark?, Toml.splitKey, Toml.Entries.define, Toml.Entries.edit,
        Table.insert]
    · cases eq_of_beq second
      have key : Toml.key? "plugins-args]".toList = some (["plugins-args"], [']']) := by
        decide +kernel
      simp at key
      simp [Toml.header?, key, Toml.mark?, Toml.splitKey, Toml.Entries.define, Toml.Entries.edit,
        Table.insert]
  have statement (fuel : Nat) : Toml.statements? origin (fuel + 2) {} ('[' :: (name.toList ++ [']'])) =
      some [(name, .table false false [])] := by
    rw [Toml.statements?]
    simp [Toml.skipSpace, Toml.isSpace, Toml.newline?, header, Toml.restOfLine?, Toml.skipComment,
      Toml.lineEnd?]
    rw [Toml.statements?]
    simp [Toml.skipSpace]
  have chars : ("[" ++ name ++ "]").toList = '[' :: (name.toList ++ [']']) := by simp
  rw [Toml.read?, chars]
  simp [Toml.withoutMark, statement, Toml.Branch.documents, Toml.Branch.document]

theorem files_header (name : String) (spelled : Settings.isPluginArgs name = true) :
    ([⟨"etc/tessera.toml", true⟩] : List Path).mapM
        (fileDocument? (configured ("[" ++ name ++ "]")).disk) =
      some [.table (some (.file (Path.shown ⟨"etc/tessera.toml", true⟩)))
        [(name, .table (some (.file (Path.shown ⟨"etc/tessera.toml", true⟩))) [])]] := by
  have content : (configured ("[" ++ name ++ "]")).disk.content? ⟨"etc/tessera.toml", true⟩ =
      some ("[" ++ name ++ "]") := rfl
  rw [List.mapM_cons, fileDocument?, content]
  dsimp only
  rw [read?_header _ spelled]
  rfl

theorem load_refuses_alias_of_header :
    (searching.load (configured "[plugins_args]")).1.isOk = true ∧
      (searching.load (configured "[plugins-args]")).1 =
        .error (.unreadable "duplicate field `plugins_args`") := by
  have sound : (searching.load (configured "[plugins_args]")).1.isOk = true := by decide +kernel
  refine ⟨sound, ?_⟩
  cases loaded : (searching.load (configured "[plugins_args]")).1 with
  | error problem => rw [loaded] at sound; cases sound
  | ok settings =>
      have found : (searching.files (configured "[plugins-args]").disk).1 =
          .ok [⟨"etc/tessera.toml", true⟩] := by decide +kernel
      have plainFound : (searching.files (configured "[plugins_args]").disk).1 =
          .ok [⟨"etc/tessera.toml", true⟩] := by decide +kernel
      have refused := load_refuses_alias found (files_header "plugins-args" rfl)
        ⟨_, List.mem_singleton_self _, rfl⟩
      refine refused.2 (configured "[plugins_args]") _ settings rfl plainFound
        (files_header "plugins_args" rfl) ?_ ?_ loaded
      · refine .cons ⟨rfl, rfl, fun name unspelled => ?_⟩ .nil
        obtain ⟨first, second⟩ := (Bool.or_eq_false_iff).mp unspelled
        rw [at?_name, at?_name, Table.find?_cons, Table.find?_cons, if_neg (ne_of_beq_false second),
          if_neg (ne_of_beq_false first)]
      · exact ⟨fun _ _ _ => rfl, fun override member => nomatch member⟩

/-- Only the spelling of the field tells the two configurations apart. -/
theorem alias_refused :
    (∃ settings, (searching.load (configured "[plugins_args.ping]\nenabled=false\n")).1 =
        .ok settings) ∧
      (searching.load (configured "[plugins-args.ping]\nenabled=false\n")).1 =
        .error (.unreadable "duplicate field `plugins_args`") := by
  constructor
  · have sound : (searching.load (configured "[plugins_args.ping]\nenabled=false\n")).1.isOk =
        true := by decide +kernel
    cases loaded : (searching.load (configured "[plugins_args.ping]\nenabled=false\n")).1 with
    | error problem => rw [loaded] at sound; cases sound
    | ok settings => exact ⟨settings, rfl⟩
  · have refused :
        (match (searching.load (configured "[plugins-args.ping]\nenabled=false\n")).1 with
          | .error problem => some problem
          | .ok _ => none) = some (.unreadable "duplicate field `plugins_args`") := by decide +kernel
    split at refused
    · rename_i problem same
      rw [same, Option.some.inj refused]
    · cases refused

end Loader

end PluginHost
