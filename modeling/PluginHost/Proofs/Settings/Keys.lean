import PluginHost.Proofs.Settings.Reading

/-
This file says under which keys settings hold values, and that they hold there what the document
holds from which they were read.
-/

namespace PluginHost

namespace Settings

open Read Document

/-- The keys of logging under which there is no table. -/
def loggingScalars : List String :=
  ["level", "format", "output", "file_path", "max_files", "thread_ids", "file_location"]

section

variable {dialect : Dialect} {name step : String} {rest : List String}

/-- A field is set to what its member holds. -/
theorem setSpanEvent_own {events next : SpanEvents} {value : Document}
    (known : name ∈ spanEventFields)
    (reads : setSpanEvent events ⟨name, step, value⟩ = .ok next) :
    (spanEventsJson next).at? [name] = some value.json := by
  unfold setSpanEvent at reads
  dsimp only at reads
  rw [spanEventsJson, Json.at?_ofMembers]
  split at reads
  case h_5 => simp_all [spanEventFields]
  all_goals
    obtain ⟨shown, read, rfl⟩ := ok_of_map reads
    rw [flag_json read]
    simp [Table.ofEntries, Table.find?_insert, Json.at?]

/-- A member leaves every other field as it was. -/
theorem setSpanEvent_other {events next : SpanEvents} {member : Member}
    (differs : member.field ≠ name) (reads : setSpanEvent events member = .ok next) :
    (spanEventsJson next).at? (name :: rest) = (spanEventsJson events).at? (name :: rest) := by
  unfold setSpanEvent at reads
  rw [spanEventsJson, spanEventsJson, Json.at?_ofMembers, Json.at?_ofMembers]
  split at reads
  case h_5 => cases reads; rfl
  all_goals
    rename_i field
    obtain ⟨shown, -, rfl⟩ := ok_of_map reads
    rw [field] at differs
    simp [Table.ofEntries, Table.find?_insert, differs.symm]

theorem setLogging_scalar {logging next : LogSettings} {value : Document}
    (known : name ∈ loggingScalars) (bare : value.isTable = false)
    (reads : setLogging .layered logging ⟨name, step, value⟩ = .ok next) :
    (loggingJson next).at? [name] = some value.json := by
  unfold setLogging at reads
  dsimp only at reads
  rw [loggingJson, Json.at?_ofMembers]
  split at reads
  -- The events of spans and the filters are tables of their own.
  case h_6 => simp [loggingScalars] at known
  case h_9 => simp [loggingScalars] at known
  case h_10 => simp_all [loggingScalars]
  all_goals obtain ⟨held, read, rfl⟩ := ok_of_map reads
  case h_1 => simp [choice_json bare read, levels, Table.ofEntries, Table.find?_insert, Json.at?]
  case h_2 => simp [choice_json bare read, formats, Table.ofEntries, Table.find?_insert, Json.at?]
  case h_3 => simp [choice_json bare read, outputs, Table.ofEntries, Table.find?_insert, Json.at?]
  case h_4 => simp [path_json read, Table.ofEntries, Table.find?_insert, Json.at?]
  case h_5 => simp [word_json read, Table.ofEntries, Table.find?_insert, Json.at?]
  all_goals simp [flag_json read, Table.ofEntries, Table.find?_insert, Json.at?]

theorem setLogging_other {logging next : LogSettings} {member : Member}
    (differs : member.field ≠ name) (reads : setLogging dialect logging member = .ok next) :
    (loggingJson next).at? (name :: rest) = (loggingJson logging).at? (name :: rest) := by
  unfold setLogging at reads
  dsimp only at reads
  rw [loggingJson, loggingJson, Json.at?_ofMembers, Json.at?_ofMembers]
  split at reads
  case h_10 => cases reads; rfl
  all_goals
    rename_i field
    obtain ⟨held, -, rfl⟩ := ok_of_map reads
    rw [field] at differs
    simp [Table.ofEntries, Table.find?_insert, differs.symm]

variable {document value : Document} {origin : Option Origin} {members : Table Document}

theorem readSpanEvents_at? {events : SpanEvents} (ascending : Table.Ascending members)
    (known : name ∈ spanEventFields) (found : (table origin members).at? [name] = some value)
    (reads : readSpanEvents dialect (.table origin members) = .ok events) :
    (spanEventsJson events).at? [name] = some value.json := by
  rw [at?_name] at found
  exact fieldwise_reaches ascending found (fun events => (spanEventsJson events).at? [name])
    (fun _ _ taken => setSpanEvent_own known taken)
    (fun _ _ differs _ _ taken => setSpanEvent_other differs taken) reads

theorem readLogging_scalar {logging : LogSettings} (ascending : Table.Ascending members)
    (known : name ∈ loggingScalars) (found : (table origin members).at? [name] = some value)
    (bare : value.isTable = false)
    (reads : readLogging .layered (.table origin members) = .ok logging) :
    (loggingJson logging).at? [name] = some value.json := by
  rw [at?_name] at found
  exact fieldwise_reaches ascending found (fun logging => (loggingJson logging).at? [name])
    (fun _ _ taken => setLogging_scalar known bare taken)
    (fun _ _ differs _ _ taken => setLogging_other differs taken) reads

theorem loggingJson_spanEvents (logging : LogSettings) (path : List String) :
    (loggingJson logging).at? ("span_events" :: path) =
      (spanEventsJson logging.spanEvents).at? path := by
  rw [loggingJson, Json.at?_ofMembers]
  simp [Table.ofEntries, Table.find?_insert]

theorem loggingJson_filters (logging : LogSettings) (name : String) :
    (loggingJson logging).at? ["filters", name] =
      (Table.find? logging.filters name).map fun level => .text level.name := by
  have held : (loggingJson logging).at? ["filters", name] =
      (Json.object (logging.filters.map fun filter => (filter.1, .text filter.2.name))).at?
        [name] := by
    rw [loggingJson, Json.at?_ofMembers]
    simp [Table.ofEntries]
  rw [held, Json.at?, Table.find?_map fun level : Log.Level => Json.text level.name]
  cases Table.find? logging.filters name <;> rfl

theorem readLogging_spanEvent {logging : LogSettings} (ascending : Table.Ascending members)
    (held : (table origin members).HasTable ["span_events"]) (known : name ∈ spanEventFields)
    (found : (table origin members).at? ["span_events", name] = some value)
    (reads : readLogging .layered (.table origin members) = .ok logging) :
    (loggingJson logging).at? ["span_events", name] = some value.json := by
  obtain ⟨inner, placed, innerHeld⟩ := hasTable_cons held
  obtain ⟨innerOrigin, events, rfl, eventsAscending⟩ := exists_ascending innerHeld
  rw [at?_table, placed, Option.bind_some] at found
  refine fieldwise_reaches ascending placed
    (fun logging => (loggingJson logging).at? ["span_events", name]) (fun logging next taken => ?_)
    (fun _ _ differs _ _ taken => setLogging_other differs taken) reads
  obtain ⟨events, read, rfl⟩ := ok_of_map taken
  rw [loggingJson_spanEvents]
  exact readSpanEvents_at? eventsAscending known found read

/-- The level of a module is read from a text; a table that names a level is left out here. -/
theorem readLogging_filter {logging : LogSettings} (ascending : Table.Ascending members)
    (held : (table origin members).HasTable ["filters"])
    (bare : ∀ value, (table origin members).at? ["filters", name] = some value →
      value.isTable = false)
    (reads : readLogging .layered (.table origin members) = .ok logging) :
    (loggingJson logging).at? ["filters", name] =
      ((table origin members).at? ["filters", name]).map Document.json := by
  obtain ⟨inner, placed, innerHeld⟩ := hasTable_cons held
  obtain ⟨innerOrigin, levels, rfl, levelsAscending⟩ := exists_ascending innerHeld
  rw [at?_table, placed, Option.bind_some, at?_name] at bare ⊢
  refine fieldwise_reaches ascending placed
    (fun logging => (loggingJson logging).at? ["filters", name]) (fun logging next taken => ?_)
    (fun _ _ differs _ _ taken => setLogging_other differs taken) reads
  obtain ⟨filters, read, rfl⟩ := ok_of_map taken
  have each := mapping_find? levelsAscending read name
  rw [loggingJson_filters]
  cases found : Table.find? levels name with
  | none =>
      rw [found] at each
      rw [Option.map_eq_none_iff.mp each.symm]
      rfl
  | some value =>
      rw [found] at each
      obtain ⟨level, there, same⟩ := Option.map_eq_some_iff.mp each.symm
      rw [there, Option.map_some, Option.map_some, choice_json (bare value found) same.symm]
      rfl

end

section

variable {dialect : Dialect} {name step : String} {rest : List String}
  {document value : Document} {origin : Option Origin} {members : Table Document}

/-- One spelling of the plugin arguments is read, and none after it. -/
theorem setField_spelled {state next : Settings × Bool} {member : Member}
    (spelled : isPluginArgs member.field = true)
    (reads : setField dialect state member = .ok next) :
    state.2 = false ∧ ∃ arguments, mapping (fun value => .ok value.json) member.value = .ok arguments ∧
      next = ({ state.1 with pluginArgs := arguments }, true) := by
  obtain ⟨settings, seen⟩ := state
  rw [setField, if_pos spelled] at reads
  cases seen with
  | true => cases reads
  | false =>
      obtain ⟨arguments, read, same⟩ := ok_of_map reads
      exact ⟨rfl, arguments, read, same.symm⟩

/-- Any other field leaves the plugin arguments alone. -/
theorem setField_unspelled {state next : Settings × Bool} {member : Member}
    (unspelled : isPluginArgs member.field = false)
    (reads : setField dialect state member = .ok next) :
    next.2 = state.2 ∧ next.1.pluginArgs = state.1.pluginArgs := by
  obtain ⟨settings, seen⟩ := state
  rw [setField, if_neg (by rw [unspelled]; exact Bool.false_ne_true)] at reads
  split at reads
  · obtain ⟨held, -, rfl⟩ := ok_of_map reads
    exact ⟨rfl, rfl⟩
  · obtain ⟨held, -, rfl⟩ := ok_of_map reads
    exact ⟨rfl, rfl⟩
  · cases reads
    exact ⟨rfl, rfl⟩

theorem setField_other {state next : Settings × Bool} {member : Member}
    (differs : member.field ≠ name)
    (single : isPluginArgs member.field = true → isPluginArgs name = false)
    (reads : setField dialect state member = .ok next) :
    next.1.json.at? (name :: rest) = state.1.json.at? (name :: rest) := by
  rw [Settings.json, Settings.json, Json.at?_ofMembers, Json.at?_ofMembers]
  cases spelling : isPluginArgs member.field with
  | true =>
      obtain ⟨-, arguments, -, rfl⟩ := setField_spelled spelling reads
      have other : name ≠ "plugins_args" := fun same => by
        have not := single spelling
        rw [same] at not
        cases not
      simp [Table.ofEntries, Table.find?_insert, other]
  | false =>
      obtain ⟨settings, seen⟩ := state
      rw [setField, if_neg (by rw [spelling]; exact Bool.false_ne_true)] at reads
      split at reads
      case h_3 => cases reads; rfl
      all_goals
        rename_i field
        obtain ⟨held, -, rfl⟩ := ok_of_map reads
        rw [field] at differs
        simp [Table.ofEntries, Table.find?_insert, differs.symm]

/-- At most one member of a document that can be read spells the plugin arguments. -/
theorem foldlM_spellings {state result : Settings × Bool}
    (reads : members.foldlM (fun state member =>
      ((setField dialect state ⟨member.1, member.1, member.2⟩).under member.1).sourced origin)
      state = .ok result) :
    (members.filter fun member => isPluginArgs member.1).length + state.2.toNat ≤ 1 := by
  induction members generalizing state with
  | nil =>
      rw [List.filter_nil, List.length_nil, Nat.zero_add]
      exact Bool.toNat_le state.2
  | cons member later ih =>
      obtain ⟨next, taken, others⟩ := ok_of_foldlM_cons reads
      have bound := ih others
      rw [List.filter_cons]
      cases spelling : isPluginArgs member.1 with
      | true =>
          obtain ⟨fresh, arguments, -, rfl⟩ := setField_spelled spelling (ok_of_located taken)
          rw [if_pos rfl, List.length_cons, fresh]
          exact bound
      | false =>
          rw [(setField_unspelled spelling (ok_of_located taken)).1] at bound
          rwa [if_neg Bool.false_ne_true]

theorem eq_of_length_le_one {α : Type} {items : List α} (single : items.length ≤ 1)
    {one other : α} (oneMember : one ∈ items) (otherMember : other ∈ items) : one = other := by
  cases items with
  | nil => cases oneMember
  | cons only more =>
      rw [List.length_cons] at single
      have alone : more = [] := List.eq_nil_of_length_eq_zero (by omega)
      rw [alone, List.mem_singleton] at oneMember otherMember
      rw [oneMember, otherMember]

theorem read_spellings {settings : Settings}
    (reads : read dialect (.table origin members) = .ok settings) {one other : String × Document}
    (oneMember : one ∈ members) (otherMember : other ∈ members)
    (oneSpelled : isPluginArgs one.1 = true) (otherSpelled : isPluginArgs other.1 = true) :
    one = other := by
  obtain ⟨result, fields, -⟩ := ok_of_map reads
  rw [fieldwise_table] at fields
  have bound : (members.filter fun member => isPluginArgs member.1).length ≤ 1 :=
    foldlM_spellings fields
  exact eq_of_length_le_one bound (List.mem_filter.mpr ⟨oneMember, oneSpelled⟩)
    (List.mem_filter.mpr ⟨otherMember, otherSpelled⟩)

/-- Both spellings of the plugin arguments set one field, so no member with the other spelling may
come between. A document with both of them cannot be read. -/
theorem read_reaches {settings : Settings} {goal : Option Json} (ascending : Table.Ascending members)
    (found : Table.find? members name = some value)
    (own : ∀ state next, setField dialect state ⟨name, name, value⟩ = .ok next →
      next.1.json.at? (name :: rest) = goal)
    (reads : read dialect (.table origin members) = .ok settings) :
    settings.json.at? (name :: rest) = goal := by
  obtain ⟨result, fields, rfl⟩ := ok_of_map reads
  refine fieldwise_reaches ascending found (fun state => state.1.json.at? (name :: rest)) own
    (fun entry member differs state next taken => setField_other differs (fun spelled => ?_) taken)
    fields
  by_contra both
  rw [Bool.not_eq_false] at both
  exact differs (congrArg Prod.fst
    (read_spellings reads member (Table.mem_of_find? found) spelled both))

theorem json_logging (settings : Settings) (path : List String) :
    settings.json.at? ("logging" :: path) = (loggingJson settings.logging).at? path := by
  rw [Settings.json, Json.at?_ofMembers]
  simp [Table.ofEntries, Table.find?_insert]

theorem json_pluginArgs (settings : Settings) (path : List String) :
    settings.json.at? ("plugins_args" :: path) = (Json.object settings.pluginArgs).at? path := by
  rw [Settings.json, Json.at?_ofMembers]
  simp [Table.ofEntries]

theorem read_instanceName {settings : Settings} (root : document.HasTable [])
    (found : document.at? ["instance_name"] = some value)
    (reads : read dialect document = .ok settings) :
    settings.json.at? ["instance_name"] = some value.json := by
  obtain ⟨origin, members, rfl, ascending⟩ := exists_ascending root
  rw [at?_name] at found
  refine read_reaches ascending found (fun state next taken => ?_) reads
  obtain ⟨name, held, rfl⟩ := ok_of_map taken
  rw [text_json held, Settings.json, Json.at?_ofMembers]
  simp [Table.ofEntries, Table.find?_insert, Json.at?]

theorem read_logging {settings : Settings} {goal : Option Json} (root : document.HasTable [])
    (held : document.HasTable ["logging"])
    (within : ∀ origin fields logging,
      (∀ path, document.at? ("logging" :: path) = (table origin fields).at? path) →
      Table.Ascending fields → readLogging dialect (.table origin fields) = .ok logging →
      (loggingJson logging).at? rest = goal)
    (reads : read dialect document = .ok settings) :
    settings.json.at? ("logging" :: rest) = goal := by
  obtain ⟨origin, members, rfl, ascending⟩ := exists_ascending root
  obtain ⟨inner, found, innerHeld⟩ := hasTable_cons held
  obtain ⟨innerOrigin, fields, rfl, fieldsAscending⟩ := exists_ascending innerHeld
  refine read_reaches ascending found (fun state next taken => ?_) reads
  obtain ⟨logging, done, rfl⟩ := ok_of_map taken
  rw [json_logging]
  refine within innerOrigin fields logging (fun path => ?_) fieldsAscending done
  rw [at?_table, found, Option.bind_some]

theorem read_pluginArgs {settings : Settings} (root : document.HasTable [])
    (held : document.HasTable ["plugins_args"]) (reads : read dialect document = .ok settings) :
    settings.json.at? ("plugins_args" :: name :: rest) =
      (document.at? ("plugins_args" :: name :: rest)).map Document.json := by
  obtain ⟨origin, members, rfl, ascending⟩ := exists_ascending root
  obtain ⟨inner, placed, innerHeld⟩ := hasTable_cons held
  obtain ⟨innerOrigin, arguments, rfl, argumentsAscending⟩ := exists_ascending innerHeld
  refine read_reaches ascending placed (fun state next taken => ?_) reads
  obtain ⟨-, table, read, rfl⟩ := setField_spelled rfl taken
  have each := mapping_find? argumentsAscending read name
  rw [json_pluginArgs, Json.at?, at?_table, placed, Option.bind_some, at?_table]
  cases found : Table.find? arguments name with
  | none =>
      rw [found] at each
      rw [Option.map_eq_none_iff.mp each.symm]
      rfl
  | some value =>
      rw [found] at each
      obtain ⟨argument, there, same⟩ := Option.map_eq_some_iff.mp each.symm
      cases same
      rw [there]
      exact json_at? value rest

end

/-- The paths under which settings keep a value of their own. The names of modules and of plugins
are free, and so is what stands below the name of a plugin. -/
inductive Key : List String → Prop
  | instanceName : Key ["instance_name"]
  | logging {name : String} (known : name ∈ loggingScalars) : Key ["logging", name]
  | spanEvent {name : String} (known : name ∈ spanEventFields) : Key ["logging", "span_events", name]
  | filter (module : String) : Key ["logging", "filters", module]
  | argument (plugin : String) (rest : List String) : Key ("plugins_args" :: plugin :: rest)

/-- The document has what the defaults have on the way along a path and at its end. -/
structure Covers (document : Document) (path : List String) : Prop where
  tables : ∀ before part after, path = before ++ part :: after →
    (ofSettings (some .defaults) {}).HasTable before → document.HasTable before
  value : ((ofSettings (some .defaults) {}).at? path).isSome = true →
    (document.at? path).isSome = true

theorem Covers.hasTable {document : Document} {path before after : List String} {part : String}
    (covers : Covers document path) (same : path = before ++ part :: after)
    (known : before ∈ [[], ["logging"], ["logging", "span_events"], ["logging", "filters"],
      ["plugins_args"]]) : document.HasTable before := by
  refine covers.tables before part after same ?_
  simp only [List.mem_cons, List.not_mem_nil, or_false] at known
  rcases known with rfl | rfl | rfl | rfl | rfl <;>
    exact ⟨_, _, rfl, by rw [Table.Ascending]; decide⟩

/-- Under their keys the settings hold what the document holds. -/
theorem read_key {document : Document} {settings : Settings} {path : List String} (key : Key path)
    (settles : document.Settles path) (covers : Covers document path)
    (reads : read .layered document = .ok settings) :
    settings.json.at? path = (document.at? path).map Document.json := by
  cases key with
  | instanceName =>
      have root : document.HasTable [] := covers.hasTable rfl (by simp)
      obtain ⟨value, found⟩ := Option.isSome_iff_exists.mp (covers.value rfl)
      rw [read_instanceName root found reads, found, Option.map_some]
  | @logging name known =>
      have root : document.HasTable [] := covers.hasTable rfl (by simp)
      have held : document.HasTable ["logging"] := covers.hasTable rfl (by simp)
      have always : ((ofSettings (some .defaults) {}).at? ["logging", name]).isSome = true := by
        simp only [loggingScalars, List.mem_cons, List.not_mem_nil, or_false] at known
        rcases known with rfl | rfl | rfl | rfl | rfl | rfl | rfl <;> rfl
      obtain ⟨value, found⟩ := Option.isSome_iff_exists.mp (covers.value always)
      rw [found, Option.map_some]
      refine read_logging root held (fun origin fields logging inner ascending done => ?_) reads
      exact readLogging_scalar ascending known ((inner _).symm.trans found)
        (settles.value value found) done
  | @spanEvent name known =>
      have root : document.HasTable [] := covers.hasTable rfl (by simp)
      have held : document.HasTable ["logging"] := covers.hasTable rfl (by simp)
      have events : document.HasTable ["logging", "span_events"] := covers.hasTable rfl (by simp)
      have always :
          ((ofSettings (some .defaults) {}).at? ["logging", "span_events", name]).isSome = true := by
        simp only [spanEventFields, List.mem_cons, List.not_mem_nil, or_false] at known
        rcases known with rfl | rfl | rfl | rfl <;> rfl
      obtain ⟨value, found⟩ := Option.isSome_iff_exists.mp (covers.value always)
      rw [found, Option.map_some]
      refine read_logging root held (fun origin fields logging inner ascending done => ?_) reads
      rw [HasTable, inner] at events
      exact readLogging_spanEvent ascending events known ((inner _).symm.trans found) done
  | filter module =>
      have root : document.HasTable [] := covers.hasTable rfl (by simp)
      have held : document.HasTable ["logging"] := covers.hasTable rfl (by simp)
      have filters : document.HasTable ["logging", "filters"] := covers.hasTable rfl (by simp)
      refine read_logging root held (fun origin fields logging inner ascending done => ?_) reads
      rw [HasTable, inner] at filters
      rw [inner]
      exact readLogging_filter ascending filters
        (fun value found => settles.value value ((inner _).trans found)) done
  | argument plugin rest =>
      have root : document.HasTable [] := covers.hasTable rfl (by simp)
      have held : document.HasTable ["plugins_args"] := covers.hasTable rfl (by simp)
      exact read_pluginArgs root held reads

end Settings

end PluginHost
