import PluginHost.Proofs.Settings.Keys
import PluginHost.Proofs.Settings.Variables
import PluginHost.Settings.Loader

/-
This file says which files are found, and that loaded settings hold what the last of their sources
holds.
-/

namespace PluginHost

open Document

namespace Loader

/-- The directories up to the first one with a base file. -/
def searched (disk : Disk) (directories : List Path) : List Path :=
  directories.take (directories.findIdx (fun directory => disk.holds (directory.join baseName)) + 1)

/-- In each directory that is searched, the file of the profile and the base file, if there are
such files. -/
def merged (loader : Loader) (disk : Disk) : List Path :=
  (searched disk loader.directories).flatMap fun directory =>
    [directory.join (profileName loader.profile), directory.join baseName].filter disk.holds

theorem searched_cons (disk : Disk) (directory : Path) (rest : List Path) :
    searched disk (directory :: rest) =
      directory :: if disk.holds (directory.join baseName) then [] else searched disk rest := by
  rw [searched, List.findIdx_cons]
  cases disk.holds (directory.join baseName) <;> rfl

theorem find_paths (disk : Disk) (profile : Profile) (directories : List Path) :
    (find disk profile directories).map Found.path =
      (searched disk directories).flatMap fun directory =>
        [directory.join (profileName profile), directory.join baseName].filter disk.holds := by
  induction directories with
  | nil => rfl
  | cons directory rest ih =>
      rw [find, searched_cons, List.flatMap_cons, List.map_append]
      cases special : disk.holds (directory.join (profileName profile)) <;>
        cases base : disk.holds (directory.join baseName) <;>
        simp [special, base, ih, Found.path]

theorem files_searching {loader : Loader} (searching : loader.file = none) (disk : Disk) :
    (loader.files disk).1 = .ok (loader.merged disk) := by
  rw [files, searching]
  exact congrArg Except.ok (find_paths disk loader.profile loader.directories)

/-- What lies between the defaults and the overrides. -/
def between (loader : Loader) (environment : Environment) (files : List Document) :
    List Document :=
  files ++ if loader.usesEnvironment then [environment.document] else []

/-- Everything that settings are loaded from, the lowest first. -/
def sources (loader : Loader) (environment : Environment) (files overrides : List Document) :
    List Document :=
  ofSettings (some .defaults) {} :: (loader.between environment files ++ overrides)

/-- What is joined. The overrides come as one layer. -/
def layered (loader : Loader) (environment : Environment) (files overrides : List Document) :
    List Document :=
  ofSettings (some .defaults) {} :: (loader.between environment files ++ [join overrides])

theorem load_ok {loader : Loader} {surroundings : Surroundings} {settings : Settings}
    (loads : (loader.load surroundings).1 = .ok settings) :
    ∃ paths document, (loader.files surroundings.disk).1 = .ok paths ∧
      loader.document surroundings paths = .ok document ∧
      Settings.read .layered document = .ok settings := by
  rw [load] at loads
  dsimp only at loads
  split at loads
  · cases loads
  · rename_i paths found
    split at loads
    · cases loads
    · rename_i document joined
      refine ⟨paths, document, found, joined, ?_⟩
      rw [finish] at loads
      split at loads
      · cases loads
      · rename_i read done
        split at loads
        · cases loads
        · cases loads
          exact done

/-- Every override has a document when there is no problem with any. -/
theorem mapM_document {overrides : List Override} {documents : List Document} :
    overrides.mapM Override.document = .ok documents ↔
      (problems overrides).isEmpty = true ∧ layersOf overrides = documents := by
  induction overrides generalizing documents with
  | nil => exact ⟨fun given => ⟨rfl, Except.ok.inj given⟩, fun given => congrArg Except.ok given.2⟩
  | cons override rest ih =>
      rw [List.mapM_cons, problems, layersOf, List.filterMap_cons, List.filterMap_cons]
      cases held : override.document with
      | error problem => exact ⟨fun given => (nomatch given), fun given => (nomatch given.1)⟩
      | ok document =>
          constructor
          · intro given
            obtain ⟨first, here, more⟩ := ok_of_bind given
            obtain ⟨later, behind, same⟩ := ok_of_bind more
            obtain ⟨sound, layers⟩ := ih.mp behind
            cases here
            cases same
            exact ⟨sound, congrArg (document :: ·) layers⟩
          · rintro ⟨sound, rfl⟩
            have more := ih.mpr ⟨sound, rfl⟩
            rw [more]
            rfl

theorem document_eq_ok {loader : Loader} {surroundings : Surroundings} {paths : List Path}
    {document : Document} : loader.document surroundings paths = .ok document ↔
      ∃ files overrides, paths.mapM (fileDocument? surroundings.disk) = some files ∧
        loader.overrides.mapM Override.document = .ok overrides ∧
        document = join (loader.layered surroundings.environment files overrides) := by
  rw [Loader.document]
  cases read : paths.mapM (fileDocument? surroundings.disk) with
  | none => exact ⟨fun joined => (nomatch joined), fun ⟨_, _, absurd, _⟩ => (nomatch absurd)⟩
  | some files =>
      dsimp only
      rw [List.singleton_append, List.cons_append, List.cons_append, ← between, ← layered]
      constructor
      · intro joined
        split at joined
        · rename_i sound
          exact ⟨files, _, rfl, mapM_document.mpr ⟨sound, rfl⟩, (Except.ok.inj joined).symm⟩
        · cases joined
      · rintro ⟨_, overrides, same, overridden, rfl⟩
        cases same
        obtain ⟨sound, rfl⟩ := mapM_document.mp overridden
        rw [if_pos sound]

/-- Settings that are loaded were read from the joined layers. -/
theorem load_reads {loader : Loader} {surroundings : Surroundings} {settings : Settings}
    {paths : List Path} {files : List Document}
    (found : (loader.files surroundings.disk).1 = .ok paths)
    (contents : paths.mapM (fileDocument? surroundings.disk) = some files)
    (loads : (loader.load surroundings).1 = .ok settings) :
    ∃ overrides, loader.overrides.mapM Override.document = .ok overrides ∧
      Settings.read .layered (join (loader.layered surroundings.environment files overrides)) =
        .ok settings := by
  obtain ⟨others, document, taken, joined, reads⟩ := load_ok loads
  cases Except.ok.inj (found.symm.trans taken)
  obtain ⟨again, overrides, same, overridden, rfl⟩ := document_eq_ok.mp joined
  cases Option.some.inj (contents.symm.trans same)
  exact ⟨overrides, overridden, reads⟩

section

variable {loader : Loader} {environment : Environment} {files overrides : List Document}
  {path : List String}

theorem proper_of_settles
    (settles : ∀ source ∈ loader.sources environment files overrides, source.Settles path) :
    path ≠ [] := by
  rintro rfl
  cases (settles_nil _).mp (settles _ List.mem_cons_self)

/-- Where the sources settle, the joined document holds what the last of them holds, and it still
has the tables of the defaults. -/
theorem join_sources
    (settles : ∀ source ∈ loader.sources environment files overrides, source.Settles path)
    {document : Document} (joined : document = join (loader.layered environment files overrides)) :
    document.Settles path ∧
      document.at? path = lastAt? (loader.sources environment files overrides) path ∧
      Settings.Covers document path := by
  obtain ⟨part, rest, rfl⟩ := List.exists_cons_of_ne_nil (proper_of_settles settles)
  obtain ⟨lowers, uppers⟩ := List.forall_mem_append.mp
    (fun source member => settles source (List.mem_cons_of_mem _ member))
  have upper := (settles_join uppers).1
  obtain ⟨settled, last⟩ :=
    settles_join_join (_ :: loader.between environment files) overrides settles
  rw [joined, layered]
  refine ⟨settled, last, ⟨fun before next after same held => ?_, fun given => ?_⟩⟩
  · refine hasTable_join held (List.forall_mem_append.mpr ⟨fun layer member => ?_, ?_⟩)
    · exact Settles.passes (same ▸ lowers layer member)
    · exact List.forall_mem_singleton.mpr (Settles.passes (same ▸ upper))
  · rw [← List.cons_append, last, List.cons_append, lastAt?_cons, Option.isSome_or, given,
      Bool.or_true]

end

/-- The files are those of the directories up to the first one with a base file. Under each path
at which the sources have no table, and above which they have nothing else, the settings that are
loaded hold what the last source holds that has a value there. A variable of the host has its
content under the parts of its name, and among the variables, too, the last one counts. -/
theorem load_takes_last (loader : Loader) (surroundings : Surroundings)
    (searching : loader.file = none) :
    (loader.files surroundings.disk).1 = .ok (loader.merged surroundings.disk) ∧
      (∀ name content, (∀ part ∈ name.splitOn "__", Environment.IsName part) →
        Environment.layer? (Environment.hostPrefix ++ name, content) =
          some (Document.nest Environment.origin ((name.splitOn "__").map Environment.lowered)
            (Environment.Content.read Environment.origin content))) ∧
      (∀ path, path ≠ [] → (∀ layer ∈ surroundings.environment.layers, layer.Settles path) →
        surroundings.environment.document.at? path =
          lastAt? surroundings.environment.layers path) ∧
      ∀ settings, (loader.load surroundings).1 = .ok settings → ∃ files overrides document,
        (loader.merged surroundings.disk).mapM (fileDocument? surroundings.disk) = some files ∧
        loader.overrides.mapM Override.document = .ok overrides ∧
        loader.document surroundings (loader.merged surroundings.disk) = .ok document ∧
        ∀ path, (∀ source ∈ loader.sources surroundings.environment files overrides,
            source.Settles path) →
          document.at? path =
            lastAt? (loader.sources surroundings.environment files overrides) path ∧
          (Settings.Key path → settings.json.at? path = (document.at? path).map Document.json) := by
  have found := files_searching searching surroundings.disk
  refine ⟨found, fun name content named => Environment.layer?_host named content,
    fun path proper settles =>
    Environment.document_at? surroundings.environment proper settles, fun settings loads => ?_⟩
  obtain ⟨paths, document, taken, joined, read⟩ := load_ok loads
  cases Except.ok.inj (found.symm.trans taken)
  obtain ⟨files, overrides, contents, overridden, same⟩ := document_eq_ok.mp joined
  refine ⟨files, overrides, document, contents, overridden, joined, fun path settles => ?_⟩
  obtain ⟨settled, last, covers⟩ := join_sources settles same
  exact ⟨last, fun key => Settings.read_key key settled covers read⟩

/-- A loader for three directories, with settings of its own. -/
def tiered : Loader where
  profile := .production
  searchPaths := [⟨"etc", true⟩, ⟨"home", true⟩, ⟨"late", true⟩]
  overrides := [.whole { instanceName := "code" }]

/-- The first directory has a file of the profile only, and the second one has a base file. -/
def tieredDisk : Disk where
  known := [
    (⟨"etc/tessera.production.toml", true⟩,
      .file "[plugins_args.ping]\nenabled = true\nuri = \"/first\"\n"),
    (⟨"etc/tessera.toml", true⟩, .nowhere),
    (⟨"home/tessera.production.toml", true⟩, .nowhere),
    (⟨"home/tessera.toml", true⟩, .file "[plugins_args.ping]\nenabled = false\n")]

theorem load_takes_last_of_tiered :
    (tiered.files tieredDisk).1 =
        .ok [⟨"etc/tessera.production.toml", true⟩, ⟨"home/tessera.toml", true⟩] ∧
      Environment.layer? ("TESSERA_A__B", "1") =
        some (Document.nest Environment.origin ["a", "b"]
          (Environment.Content.read Environment.origin "1")) ∧
      ∃ settings, (tiered.load { disk := tieredDisk }).1 = .ok settings ∧
        settings.json.at? ["plugins_args", "ping", "enabled"] = some (.flag false) := by
  obtain ⟨found, named, -, loaded⟩ := load_takes_last tiered { disk := tieredDisk } rfl
  have parts : "A__B".splitOn "__" = ["A", "B"] := by
    -- Evaluation does not open the loop of the split, so each line is one round of it.
    rw [String.splitOn, if_neg (by decide)]
    rw [String.splitOnAux, if_neg (by decide), if_neg (by decide)]
    rw [String.splitOnAux, if_neg (by decide), if_pos (by decide), if_neg (by decide)]
    rw [String.splitOnAux, if_neg (by decide), if_pos (by decide), if_pos (by decide)]
    rw [String.splitOnAux, if_neg (by decide), if_neg (by decide)]
    rw [String.splitOnAux, if_pos (by decide)]
    decide
  have proper : ∀ part ∈ "A__B".splitOn "__", Environment.IsName part := by
    rw [parts]
    simp [Environment.IsName, Text.isBlank]
  refine ⟨found.trans (by decide +kernel), ?_, ?_⟩
  · have layered := named "A__B" "1" proper
    rw [parts] at layered
    exact layered
  cases result : (tiered.load { disk := tieredDisk }).1 with
  | error problem =>
      have sound : (tiered.load { disk := tieredDisk }).1.isOk = true := by decide +kernel
      rw [result] at sound
      cases sound
  | ok settings =>
      refine ⟨settings, rfl, ?_⟩
      obtain ⟨files, overrides, document, contents, overridden, -, last⟩ := loaded settings result
      have evaluated : (((tiered.merged tieredDisk).mapM (fileDocument? tieredDisk)).bind fun files =>
          (tiered.overrides.mapM Override.document).toOption.map fun overrides =>
            (decide (∀ source ∈ tiered.sources [] files overrides,
              source.Settles ["plugins_args", "ping", "enabled"]),
            (lastAt? (tiered.sources [] files overrides) ["plugins_args", "ping", "enabled"]).bind
              fun value => value.json.flag?)) = some (true, some false) := by
        decide +kernel
      rw [contents, Option.bind_some, overridden] at evaluated
      obtain ⟨settles, value⟩ := Prod.mk.inj (Option.some.inj evaluated)
      obtain ⟨held, there, flagged⟩ := Option.bind_eq_some_iff.mp value
      obtain ⟨joined, kept⟩ := last _ (of_decide_eq_true settles)
      rw [kept (.argument "ping" ["enabled"]), joined]
      change Option.map json (lastAt? (tiered.sources [] files overrides) _) = _
      rw [there, Option.map_some]
      cases shown : held.json with
      | flag value =>
          rw [shown] at flagged
          rw [Option.some.inj flagged]
      | _ => rw [shown] at flagged; cases flagged

end Loader

end PluginHost
