import PluginHost.Proofs.Settings.Sources

/-
This file says that settings which are given as a whole are loaded as they are. Written as a
document they cover all that the defaults hold, and read back from it they are the same again.
-/

namespace PluginHost

namespace Json

mutual

/-- The doubles in a value have a written form. -/
def Finite : Json → Prop
  | .decimal value => value.isFinite = true
  | .list items => ItemsFinite items
  | .object members => MembersFinite members
  | _ => True

def ItemsFinite : List Json → Prop
  | [] => True
  | item :: rest => item.Finite ∧ ItemsFinite rest

def MembersFinite : List (String × Json) → Prop
  | [] => True
  | (_, value) :: rest => value.Finite ∧ MembersFinite rest

end

theorem finite_of_mem {members : List (String × Json)} (finite : MembersFinite members)
    {member : String × Json} (listed : member ∈ members) : member.2.Finite := by
  induction members with
  | nil => cases listed
  | cons first rest ih =>
      rcases List.mem_cons.mp listed with rfl | later
      · exact finite.1
      · exact ih finite.2 later

end Json

namespace Document

open Json

mutual

/-- A value that was written into a document is read back from it. -/
theorem json_ofJson (origin : Option Origin) : (value : Json) → value.Finite →
    (ofJson origin value).json = value
  | .null, _ => rfl
  | .flag _, _ => rfl
  | .integer value, _ => by
    rw [ofJson, json]
    split
    · rfl
    · rename_i natural
      rw [scalarJson, Int.toNat_of_nonneg (Int.not_lt.mp natural)]
  | .decimal _, finite => if_pos finite
  | .text _, _ => rfl
  | .list items, finite => congrArg Json.list (jsonItems_ofJsonItems origin items finite)
  | .object members, finite =>
    congrArg Json.object (jsonMembers_ofJsonMembers origin members finite)

theorem jsonItems_ofJsonItems (origin : Option Origin) : (items : List Json) →
    ItemsFinite items → jsonItems (ofJsonItems origin items) = items
  | [], _ => rfl
  | item :: rest, ⟨finite, others⟩ =>
    congrArg₂ List.cons (json_ofJson origin item finite) (jsonItems_ofJsonItems origin rest others)

theorem jsonMembers_ofJsonMembers (origin : Option Origin) : (members : List (String × Json)) →
    MembersFinite members → jsonMembers (ofJsonMembers origin members) = members
  | [], _ => rfl
  | (name, value) :: rest, ⟨finite, others⟩ =>
    congrArg₂ List.cons (congrArg (Prod.mk name) (json_ofJson origin value finite))
      (jsonMembers_ofJsonMembers origin rest others)

end

theorem ofJsonMembers_eq_map (origin : Option Origin) (members : List (String × Json)) :
    ofJsonMembers origin members =
      members.map fun member => (member.1, ofJson origin member.2) := by
  induction members with
  | nil => rfl
  | cons member rest ih => rw [ofJsonMembers, ih, List.map_cons]

/-- Members stay as they are over nothing, and over members of the same names that they hide. -/
theorem membersLaidOver_eq {uppers lowers : Table Document} (ascending : Table.Ascending uppers)
    (lowersAscending : Table.Ascending lowers)
    (covered : ∀ name, Table.find? uppers name = none → Table.find? lowers name = none)
    (hidden : ∀ name upper lower, Table.find? uppers name = some upper →
      Table.find? lowers name = some lower → upper.laidOver lower = upper) :
    membersLaidOver uppers lowers = uppers := by
  refine (ascending_membersLaidOver uppers lowersAscending).ext ascending fun name => ?_
  rw [find?_membersLaidOver]
  cases above : Table.find? uppers name with
  | none => exact covered name above
  | some upper =>
      cases below : Table.find? lowers name with
      | none => rfl
      | some lower => exact congrArg some (hidden name upper lower above below)

theorem table_laidOver_empty {members : Table Document} (ascending : Table.Ascending members)
    (origin other : Option Origin) :
    (table origin members).laidOver (table other []) = table origin members := by
  rw [laidOver, membersLaidOver_eq ascending .nil (fun _ _ => rfl)
    fun _ _ _ _ absurd => by cases absurd]

theorem table_laidOver_table (names : List String) (ascending : names.Pairwise (· < ·))
    {uppers lowers : Table Document} (upperNames : uppers.map Prod.fst = names)
    (lowerNames : lowers.map Prod.fst = names)
    (hidden : ∀ pair ∈ uppers.zip lowers, pair.1.2.laidOver pair.2.2 = pair.1.2)
    (origin other : Option Origin) :
    (table origin uppers).laidOver (table other lowers) = table origin uppers := by
  have same : uppers.map Prod.fst = lowers.map Prod.fst := upperNames.trans lowerNames.symm
  rw [laidOver, membersLaidOver_eq (.of_names ascending upperNames)
    (.of_names ascending lowerNames) (fun name absent => ?_) fun name upper lower above below => ?_]
  · rw [Table.find?_eq_none_iff] at absent ⊢
    rwa [← same]
  · exact hidden _ (Table.find?_zip same above below)

theorem ofSpanEvents_laidOver (origin other : Option Origin) (events others : SpanEvents) :
    (ofSpanEvents origin events).laidOver (ofSpanEvents other others) =
      ofSpanEvents origin events := by
  refine table_laidOver_table ["close", "enter", "exit", "new"] (by decide) rfl rfl ?_ _ _
  simp only [List.zip_cons_cons, List.forall_mem_cons]
  exact ⟨rfl, rfl, rfl, rfl, fun _ absurd => by cases absurd⟩

/-- The filters stand over none, and all other fields are there on both sides. -/
theorem ofLogSettings_laidOver (origin other : Option Origin) {logging others : LogSettings}
    (ascending : Table.Ascending logging.filters) (empty : others.filters = []) :
    (ofLogSettings origin logging).laidOver (ofLogSettings other others) =
      ofLogSettings origin logging := by
  have path : ((logging.filePath.map (text origin)).getD (.leaf origin .unit)).isTable = false := by
    cases logging.filePath <;> rfl
  have filters : Table.Ascending
      (logging.filters.map fun filter => (filter.1, text origin filter.2.name)) :=
    List.pairwise_map.mpr ascending
  refine table_laidOver_table ["file_location", "file_path", "filters", "format", "level",
    "max_files", "output", "span_events", "thread_ids"] (by decide) rfl rfl ?_ _ _
  simp only [List.zip_cons_cons, List.forall_mem_cons, empty]
  exact ⟨rfl, laidOver_of_bare path _, table_laidOver_empty filters _ _, rfl, rfl, rfl, rfl,
    ofSpanEvents_laidOver _ _ _ _, rfl, fun _ absurd => by cases absurd⟩

/-- The members of the document of settings. -/
def settingsMembers (origin : Option Origin) (settings : Settings) : Table Document :=
  [("instance_name", text origin settings.instanceName),
    ("logging", ofLogSettings origin settings.logging),
    ("plugins_args", .table origin (ofJsonMembers origin settings.pluginArgs))]

theorem settingsMembers_ascending (origin : Option Origin) (settings : Settings) :
    Table.Ascending (settingsMembers origin settings) :=
  .of_names (by decide : ["instance_name", "logging", "plugins_args"].Pairwise (· < ·)) rfl

end Document

namespace Settings

/-- What the types of the settings promise: a name has one value, and doubles have a written
form. -/
structure Sound (settings : Settings) : Prop where
  filters : Table.Ascending settings.logging.filters
  pluginArgs : Table.Ascending settings.pluginArgs
  finite : Json.MembersFinite settings.pluginArgs

end Settings

namespace Document

theorem settingsMembers_laidOver (origin other : Option Origin) {settings : Settings}
    (sound : settings.Sound) :
    membersLaidOver (settingsMembers origin settings) (settingsMembers other {}) =
      settingsMembers origin settings := by
  have arguments : Table.Ascending (ofJsonMembers origin settings.pluginArgs) := by
    rw [ofJsonMembers_eq_map]
    exact List.pairwise_map.mpr sound.pluginArgs
  have whole : (table origin (settingsMembers origin settings)).laidOver
      (table other (settingsMembers other {})) =
        table origin (settingsMembers origin settings) := by
    refine table_laidOver_table ["instance_name", "logging", "plugins_args"] (by decide) rfl rfl ?_
      _ _
    simp only [settingsMembers, List.zip_cons_cons, List.forall_mem_cons]
    exact ⟨rfl, ofLogSettings_laidOver _ _ sound.filters rfl, table_laidOver_empty arguments _ _,
      fun _ absurd => by cases absurd⟩
  rw [laidOver] at whole
  exact (table.inj whole).2

end Document

namespace Read

open Document

/-- A table into which each value was written is read back whole. -/
theorem mapping_written {α : Type} (write : α → Document) {read : Document → Read α}
    {table : Table α} (ascending : Table.Ascending table)
    (back : ∀ entry ∈ table, read (write entry.2) = .ok entry.2) (origin : Option Origin) :
    mapping read (.table origin (table.map fun entry => (entry.1, write entry.2))) =
      .ok table := by
  have step (front rest : Table α) (ascending : Table.Ascending (front ++ rest))
      (back : ∀ entry ∈ rest, read (write entry.2) = .ok entry.2) :
      (rest.map fun entry => (entry.1, write entry.2)).foldlM (fun table member => do
        let value ← ((read member.2).under member.1).sourced origin
        return Table.insert table member.1 value) front = .ok (front ++ rest) := by
    induction rest generalizing front with
    | nil =>
        rw [List.append_nil]
        rfl
    | cons entry rest ih =>
        obtain ⟨here, later⟩ := List.forall_mem_cons.mp back
        have behind : ∀ other ∈ front, other.1 < entry.1 := fun other member =>
          (List.pairwise_append.mp ascending).2.2 other member entry List.mem_cons_self
        rw [List.append_cons, ← Table.insert_last entry.2 behind] at ascending ⊢
        rw [List.map_cons, List.foldlM_cons, here]
        exact ih (Table.insert front entry.1 entry.2) ascending later
  exact step [] table ascending back

theorem word_written (origin : Option Origin) (value : UInt32) :
    word (.leaf origin (.unsigned value.toNat)) = .ok value := by
  have fits : value.toNat < Limit.word32 := value.toNat_lt
  rw [word, if_pos fits, UInt32.ofNat_toNat]

theorem path_written (origin : Option Origin) (value : Option String) :
    path ((value.map (Document.text origin)).getD (.leaf origin .unit)) = .ok value := by
  cases value <;> rfl

theorem level_written (origin : Option Origin) (level : Log.Level) :
    choice .layered Settings.levels (Document.text origin level.name) = .ok level := by
  cases level <;> rfl

theorem format_written (origin : Option Origin) (format : LogFormat) :
    choice .layered Settings.formats (Document.text origin format.name) = .ok format := by
  cases format <;> rfl

theorem output_written (origin : Option Origin) (output : LogOutput) :
    choice .layered Settings.outputs (Document.text origin output.name) = .ok output := by
  cases output <;> rfl

end Read

namespace Settings

open Document Read

theorem readSpanEvents_written (origin : Option Origin) (events : SpanEvents) :
    readSpanEvents .layered (ofSpanEvents origin events) = .ok events := by
  rw [readSpanEvents, ofSpanEvents, fieldwise_table]
  rfl

theorem readLogging_written (origin : Option Origin) {logging : LogSettings}
    (ascending : Table.Ascending logging.filters) :
    readLogging .layered (ofLogSettings origin logging) = .ok logging := by
  have filters := mapping_written (fun level : Log.Level => text origin level.name) ascending
    (fun entry _ => level_written origin entry.2) origin
  rw [readLogging, ofLogSettings, fieldwise_table]
  simp only [List.foldlM_cons, List.foldlM_nil, setLogging, level_written, format_written,
    output_written, path_written, word_written, readSpanEvents_written, filters]
  rfl

/-- Settings are read back from the document into which they were written. -/
theorem read_written (origin other : Option Origin) {settings : Settings}
    (sound : settings.Sound) :
    read .layered (.table other (settingsMembers origin settings)) = .ok settings := by
  have logging := readLogging_written origin sound.filters
  have arguments : mapping (fun value => .ok value.json)
      (.table origin (ofJsonMembers origin settings.pluginArgs)) = .ok settings.pluginArgs := by
    rw [ofJsonMembers_eq_map]
    refine mapping_written (Document.ofJson origin) sound.pluginArgs (fun entry member => ?_) origin
    exact congrArg Except.ok (json_ofJson origin entry.2 (Json.finite_of_mem sound.finite member))
  rw [read, settingsMembers, fieldwise_table]
  simp only [List.foldlM_cons, List.foldlM_nil, setField, logging, arguments]
  rfl

end Settings

namespace Loader

open Document

/-- Where nothing is there to be found, no file is read. -/
theorem files_of_absent {loader : Loader} {disk : Disk} (searching : loader.file = none)
    (absent : ∀ path ∈ loader.candidates, disk.holds path = false) :
    (loader.files disk).1 = .ok [] := by
  rw [files_searching searching, merged, List.flatMap_eq_nil_iff.mpr]
  intro directory member
  rw [List.filter_eq_nil_iff]
  intro path listed held
  have known : path ∈ loader.candidates := by
    rw [candidates, searching]
    exact List.mem_flatMap.mpr ⟨directory, List.mem_of_mem_take member, listed⟩
  rw [absent path known] at held
  cases held

theorem join_whole {settings : Settings} (sound : settings.Sound) :
    join [ofSettings (some .defaults) {}, join [ofSettings (some .override) settings]] =
      .table none (settingsMembers (some .override) settings) := by
  have alone (origin : Option Origin) (given : Settings) :
      (ofSettings origin given).laidOver (.table none []) = ofSettings origin given :=
    table_laidOver_empty (settingsMembers_ascending origin given) origin none
  have upper : join [ofSettings (some .override) settings] =
      .table none (settingsMembers (some .override) settings) := by
    rw [join, List.foldl_cons, alone]
    rfl
  have both : (Document.table none (settingsMembers (some .override) settings)).laidOver
      (ofSettings (some .defaults) {}) =
        .table none (settingsMembers (some .override) settings) :=
    congrArg (Document.table none)
      (settingsMembers_laidOver (some .override) (some .defaults) sound)
  rw [upper, join, List.foldl_cons, alone, List.foldl_cons, both]
  rfl

/-- Settings that are given as a whole, and pass the check, are loaded as they are when neither
the environment nor a file says anything. The joined document is the one into which they were
written: over the defaults nothing is lost, added or altered. -/
theorem load_whole {loader : Loader} {surroundings : Surroundings} {settings : Settings}
    {warnings : List SettingsWarning} (sound : settings.Sound)
    (accepted : settings.check = .ok warnings) (offline : loader.usesEnvironment = false)
    (searching : loader.file = none)
    (absent : ∀ path ∈ loader.candidates, surroundings.disk.holds path = false)
    (given : loader.overrides = [.whole settings]) :
    (loader.load surroundings).1 = .ok settings ∧
      loader.document surroundings [] =
        .ok (.table none (settingsMembers (some .override) settings)) := by
  have joined : loader.document surroundings [] =
      .ok (.table none (settingsMembers (some .override) settings)) := by
    refine document_eq_ok.mpr ⟨[], [ofSettings (some .override) settings], rfl, ?_, ?_⟩
    · rw [given]
      rfl
    · rw [layered, between, offline, ← join_whole sound]
      rfl
  have found := files_of_absent searching absent
  refine ⟨?_, joined⟩
  rw [load]
  dsimp only
  rw [found]
  dsimp only
  rw [joined]
  dsimp only
  rw [finish, Settings.read_written (some .override) none sound]
  dsimp only
  rw [accepted]

/-- Settings with a file for the log and arguments of every form. -/
def various : Settings where
  instanceName := "edge"
  logging :=
    { level := .trace, format := .pretty, output := .file, filePath := some "logs/host.log"
      maxFiles := 7, spanEvents := .lifecycle, threadIds := true
      filters := [("", .warn), ("tessera_engine", .debug)] }
  pluginArgs :=
    [("cache", .object [("limit", .integer 18446744073709551615), ("ratio", .decimal 0.25),
        ("spare", .object []), ("tag", .null)]),
      ("ping", .list [.integer (-9223372036854775808), .flag false, .text "pong", .list []]),
      ("quiet", .null)]

/-- A directory without any of the files. -/
def bareDisk : Disk where
  known := [(⟨"etc/tessera.development.toml", true⟩, .nowhere),
    (⟨"etc/tessera.toml", true⟩, .nowhere)]

theorem load_whole_of_various :
    let loader : Loader :=
      { searchPaths := [⟨"etc", true⟩], usesEnvironment := false, overrides := [.whole various] }
    (loader.load { disk := bareDisk }).1 = .ok various := by
  intro loader
  have sound : various.Sound := by
    refine ⟨.of_names (by decide : ["", "tessera_engine"].Pairwise (· < ·)) rfl,
      .of_names (by decide : ["cache", "ping", "quiet"].Pairwise (· < ·)) rfl, ?_⟩
    have ratio : (0.25 : Float).isFinite = true := by decide +kernel
    exact ⟨⟨trivial, ratio, trivial, trivial, trivial⟩,
      ⟨trivial, trivial, trivial, trivial, trivial⟩, trivial, trivial⟩
  have accepted : various.check =
      .ok [.emptyFilterModule, .pluginArgsNotMap "ping", .pluginArgsNotMap "quiet"] := by
    decide +kernel
  exact (load_whole sound accepted rfl rfl (by decide +kernel) rfl).1

end Loader

end PluginHost
