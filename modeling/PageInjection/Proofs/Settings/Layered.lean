import PageInjection.Proofs.Settings.Standing

/-!
# Layered settings

The settings of a workspace come from a global file, from the file that always holds, from
the file for the kind of surroundings, and from variables.  Each setting has its value from
the highest of these sources that sets it.  There is one exception: where the kind gives its
file no name but the ending, what that file sets does not matter.
-/

namespace PageInjection.Settings

/-- The kind of surroundings that a variable chooses. -/
def kindOf (environment : Environment) : String :=
  (environment.get? "CODEWEAVE_ENV").getD "development"

/-- The sources of the settings for a workspace, from the lowest one to the highest. -/
structure Sources where
  globalFile : SettingSource
  baseFile : SettingSource
  kindFile : SettingSource
  overrides : SettingSource

/-- A host holds four sources: documents that may be missing, and variables. -/
structure Sources.AreHeld (sources : Sources) (host : Host) (root : String) : Prop where
  stands : host.HasCurrentFolder
  globalFile : ∀ path, globalPath? host.environment = some path →
    Gives host path sources.globalFile ∧ host.disk.look host.current path ≠ .ok .folder
  noGlobalFile : globalPath? host.environment = none → sources.globalFile = .silent
  baseFile : Gives host (Location.join (Location.join root "config") "config.toml")
    sources.baseFile
  kindFile : Gives host
    (Location.join (Location.join root "config") (kindOf host.environment ++ ".toml"))
    sources.kindFile
  overrides : host.environment.Overrides sources.overrides

/-- Nothing stands before the ending of the file for a kind. -/
def isNameless (kind : String) : Bool :=
  kind == "" || kind.endsWith "/"

/-- A source that sets nothing can be left out. -/
theorem isLayered_of_silent {settings : Settings} {lower upper : List SettingSource}
    (layered : settings.IsLayered (lower ++ .silent :: upper)) :
    settings.IsLayered (lower ++ upper) := by
  refine ⟨fun group name => ?_, layered.2⟩
  have nothing : SettingSource.silent.value? group name = none := rfl
  simpa [List.findSome?_append, nothing] using layered.1 group name

namespace Sources.AreHeld

variable {sources : Sources} {host : Host} {root : String}

theorem exists_globalFile (areHeld : sources.AreHeld host root) :
    ∃ files source?, AreRead host files [sources.globalFile] ∧
      globalSource? Host.surroundings host = (source?, host) ∧
      source?.toList = files.map (·.path) := by
  cases globalPath : globalPath? host.environment with
  | some path =>
      obtain ⟨gives, noFolder⟩ := areHeld.globalFile path globalPath
      exact Settings.exists_globalFile areHeld.stands globalPath gives noFolder
  | none =>
      exact ⟨[], none, areHeld.noGlobalFile globalPath ▸ .nil host,
        globalSource?_of_none globalPath, rfl⟩

theorem exists_baseFile (areHeld : sources.AreHeld host root) :
    ∃ files, AreRead host files [sources.baseFile] ∧
      [Location.join (Location.join root "config") "config.toml"].filter
        (fun path => (host.file? path).isSome) = files.map (·.path) := by
  have slashless : '/' ∉ "config".toList := by decide
  have endsIn : Location.EndsIn (Location.join (Location.join root "config") "config.toml")
      ("config" ++ "." ++ "toml") := (Location.endsIn_of_slashless (by decide)).join _
  have named : ¬ "config" = "" := by decide
  simpa only [if_neg named] using
    exists_workspaceFile areHeld.stands areHeld.baseFile endsIn slashless

/-- The file for the kind sets what its document sets, unless it has no name. -/
theorem exists_kindFile (areHeld : sources.AreHeld host root) :
    ∃ files, AreRead host files
        [if isNameless (kindOf host.environment) then .silent else sources.kindFile] ∧
      [Location.join (Location.join root "config") (kindOf host.environment ++ ".toml")].filter
        (fun path => (host.file? path).isSome) = files.map (·.path) := by
  obtain ⟨stem, slashless, empty_iff, below⟩ :=
    Location.exists_endsIn_append (kindOf host.environment)
  have nameless_iff : isNameless (kindOf host.environment) = true ↔ stem = "" := by
    rw [empty_iff, isNameless, Bool.or_eq_true, beq_iff_eq]
  have apart : ".toml" = "." ++ "toml" := by decide
  have endsIn : Location.EndsIn
      (Location.join (Location.join root "config") (kindOf host.environment ++ ".toml"))
      (stem ++ "." ++ "toml") := by
    rw [String.append_assoc, ← apart]
    exact (below ".toml" (by decide)).join _
  simpa only [nameless_iff] using
    exists_workspaceFile areHeld.stands areHeld.kindFile endsIn slashless

/-- The files of a workspace are read without a fault. -/
theorem exists_standingLayers_eq (areHeld : sources.AreHeld host root) :
    ∃ files, AreRead host files [sources.globalFile, sources.baseFile,
        if isNameless (kindOf host.environment) then .silent else sources.kindFile] ∧
      standingLayers Host.surroundings root host = (.ok (files.map (·.layer)), host) := by
  obtain ⟨globals, source?, globalRead, globalSource, globalPaths⟩ := areHeld.exists_globalFile
  obtain ⟨bases, baseRead, basePaths⟩ := areHeld.exists_baseFile
  obtain ⟨kinds, kindRead, kindPaths⟩ := areHeld.exists_kindFile
  have areRead := (globalRead.append baseRead).append kindRead
  refine ⟨globals ++ bases ++ kinds, areRead, standingLayers_eq globalSource ?_ areRead.read⟩
  have apart (first second : String) :
      [first, second].filter (fun path => (host.file? path).isSome) =
        [first].filter (fun path => (host.file? path).isSome) ++
          [second].filter (fun path => (host.file? path).isSome) := by
    rw [← List.filter_append, List.singleton_append]
  rw [globalPaths, workspacePaths, List.map_cons, List.map_singleton, apart, basePaths]
  rw [kindOf] at kindPaths
  rw [kindPaths, List.map_append, List.map_append, List.append_assoc]

/-- Loading gives the settings of the four sources, one above the other. -/
theorem exists_load_eq (areHeld : sources.AreHeld host root) :
    ∃ settings, (load Host.surroundings root).run host = (.ok settings, host) ∧
      settings.IsLayered [sources.globalFile, sources.baseFile,
        if isNameless (kindOf host.environment) then .silent else sources.kindFile,
        sources.overrides] := by
  obtain ⟨files, areRead, standing⟩ := areHeld.exists_standingLayers_eq
  let saying := (SettingLayer.builtIn, SettingSource.builtIn) ::
    (files.map fun file => (file.layer, file.source)) ++
      [(SettingLayer.ofEnvironment host.environment, sources.overrides)]
  have faithful : ∀ pair ∈ saying, pair.1.Says pair.2.value? := by
    refine List.forall_mem_append.mpr ⟨List.forall_mem_cons.mpr ⟨.builtIn, ?_⟩,
      List.forall_mem_singleton.mpr areHeld.overrides.layer_isSaid⟩
    exact List.forall_mem_map.mpr areRead.isSaid
  obtain ⟨settings, given, layered⟩ := exists_ofLayers_eq saying faithful
  have layers : saying.map (·.1) = [SettingLayer.builtIn] ++ files.map (·.layer) ++
      [SettingLayer.ofEnvironment host.environment] := by
    simp [saying, Function.comp_def]
  have sourced : saying.map (·.2) =
      .builtIn :: (files.map (·.source) ++ [sources.overrides]) := by
    simp [saying, Function.comp_def]
  rw [layers] at given
  rw [sourced] at layered
  refine ⟨settings, ?_, areRead.isLayered_append (isLayered_builtIn_cons layered)⟩
  simp only [load, StateT.run, bind, StateT.bind, standing, environment_surroundings]
  simp only [assemble, given]
  rfl

end Sources.AreHeld

/-- Loading gives each setting the value from the highest source that sets it, or else its
default.  The document for the kind counts unless the kind gives it no name. -/
theorem load_isLayered {sources : Sources} {host : Host} {root : String}
    (areHeld : sources.AreHeld host root) :
    ∃ settings, (load Host.surroundings root).run host = (.ok settings, host) ∧
      settings.IsLayered (if isNameless (kindOf host.environment)
        then [sources.globalFile, sources.baseFile, sources.overrides]
        else [sources.globalFile, sources.baseFile, sources.kindFile, sources.overrides]) := by
  obtain ⟨settings, loaded, layered⟩ := areHeld.exists_load_eq
  refine ⟨settings, loaded, ?_⟩
  cases nameless : isNameless (kindOf host.environment) with
  | false => simpa [nameless] using layered
  | true =>
      have muted : settings.IsLayered
          ([sources.globalFile, sources.baseFile] ++ .silent :: [sources.overrides]) := by
        simpa [nameless] using layered
      simpa using isLayered_of_silent muted

/-! ## Two files -/

/-- The numbers of a table that holds nothing else. -/
def wholes? : Toml.Members → Option (List (String × Int))
  | [] => some []
  | (name, .whole value) :: items => (wholes? items).map ((name, value) :: ·)
  | _ => none

theorem eq_of_wholes? {items : Toml.Members} {numbers : List (String × Int)}
    (found : wholes? items = some numbers) :
    items = numbers.map fun (name, value) => (name, .whole value) := by
  fun_induction wholes? items generalizing numbers with
  | case1 =>
      obtain rfl := Option.some.inj found
      rfl
  | case2 name value items ih =>
      obtain ⟨rest, more, rfl⟩ := Option.map_eq_some_iff.mp found
      rw [ih more, List.map_cons]
  | case3 => exact absurd found (by simp)

/-- Whether a document has one table, which holds nothing but the given numbers. -/
def isTableOfWholes (text group : String) (numbers : List (String × Int)) : Bool :=
  match Toml.read text with
  | .ok [(name, .table _ items)] => name == group && wholes? items == some numbers
  | _ => false

theorem exists_read_eq {text group : String} {numbers : List (String × Int)}
    (isTable : isTableOfWholes text group numbers = true) :
    ∃ standing, Toml.read text =
      .ok [(group, .table standing (numbers.map fun (name, value) => (name, .whole value)))] := by
  unfold isTableOfWholes at isTable
  split at isTable
  · rename_i name standing items read
    simp only [Bool.and_eq_true, beq_iff_eq] at isTable
    obtain ⟨rfl, found⟩ := isTable
    exact ⟨standing, eq_of_wholes? found ▸ read⟩
  · exact absurd isTable Bool.false_ne_true

def baseText : String := "[sandbox]\nmax_operations = 10\ntime_limit_ms = 10\n"

def kindText : String := "[sandbox]\nmax_operations = 31\n"

/-- A host with two files of settings, the second one for the kind of its surroundings. -/
def hostOfKind (kind : String) (entries : List (String × String)) : Host where
  environment := ⟨("CODEWEAVE_ENV", kind) :: entries⟩
  currentFolder := "/work"
  disk := ⟨[(["work"], .folder), (["work", "config"], .folder),
    (["work", "config", "config.toml"], .file (Text.encode baseText.toList)),
    (["work", "config", kind ++ ".toml"], .file (Text.encode kindText.toList))]⟩

/-- What the two files set, below what variables set. -/
def sourcesOfKind (overrides : SettingSource) : Sources where
  globalFile := .silent
  baseFile := .ofKeys [("sandbox", "max_operations"), ("sandbox", "time_limit_ms")]
    { sandbox := { operations := 10, milliseconds := 10 } } (by decide)
  kindFile :=
    .ofKeys [("sandbox", "max_operations")] { sandbox := { operations := 31 } } (by decide)
  overrides := overrides

section

variable {kind : String} {entries : List (String × String)} {source : SettingSource}

theorem hasCurrentFolder_hostOfKind : (hostOfKind kind entries).HasCurrentFolder := by
  have names : Location.names "/work" = ["work"] := by decide +kernel
  have current : (hostOfKind kind entries).current = ["work"] := names
  have absolute : Location.isAbsolute "/work" = true := by decide +kernel
  have root : (hostOfKind kind entries).disk.IsReached [] := Disk.isReached_nil _
  refine ⟨absolute, ?_, ?_⟩
  · rw [current]
    exact root.append_singleton rfl ⟨by decide, by decide, by decide, by decide⟩
  · rw [current]
    rfl

theorem areHeld_hostOfKind
    (base : (hostOfKind kind entries).file? "/work/config/config.toml" =
      some (.file (Text.encode baseText.toList)))
    (other : (hostOfKind kind entries).file? (Location.join "/work/config" (kind ++ ".toml")) =
      some (.file (Text.encode kindText.toList)))
    (homeless : globalPath? (hostOfKind kind entries).environment = none)
    (overrides : (hostOfKind kind entries).environment.Overrides source) :
    (sourcesOfKind source).AreHeld (hostOfKind kind entries) "/work" := by
  have folder : Location.join "/work" "config" = "/work/config" := by decide +kernel
  have file : Location.join "/work/config" "config.toml" = "/work/config/config.toml" := by
    decide +kernel
  have chosen : kindOf (hostOfKind kind entries).environment = kind := by
    simp [kindOf, hostOfKind, Environment.get?]
  have baseTable : isTableOfWholes baseText "sandbox"
      [("max_operations", 10), ("time_limit_ms", 10)] = true := by
    decide +kernel
  have kindTable : isTableOfWholes kindText "sandbox" [("max_operations", 31)] = true := by
    decide +kernel
  obtain ⟨_, readBase⟩ := exists_read_eq baseTable
  obtain ⟨_, readKind⟩ := exists_read_eq kindTable
  refine ⟨hasCurrentFolder_hostOfKind, fun path found => ?_, fun _ => rfl, ?_, ?_, overrides⟩
  · simp [homeless] at found
  · rw [folder, file]
    refine gives_of_toml base readBase (.of_table (by decide) (by decide) ?_)
    exact List.forall_mem_cons.mpr ⟨⟨_, rfl, rfl⟩, List.forall_mem_singleton.mpr ⟨_, rfl, rfl⟩⟩
  · rw [folder, chosen]
    refine gives_of_toml other readKind (.of_table (by decide) (by decide) ?_)
    exact List.forall_mem_singleton.mpr ⟨_, rfl, rfl⟩

end

def colorless : SettingSource :=
  .ofKeys [("logging", "color")] { logging := { color := false } } (by decide)

def colorlessHost : Host := hostOfKind "test" [("CODEWEAVE__LOGGING__COLOR", "false")]

theorem keyOfVariable?_kind : SettingLayer.keyOfVariable? "CODEWEAVE_ENV" = none := by
  decide +kernel

theorem overrides_colorless : colorlessHost.environment.Overrides colorless := by
  have color : IsVariableOf "CODEWEAVE__LOGGING__COLOR" "logging" "color" := by
    rw [IsVariableOf]
    decide +kernel
  refine ⟨?_, fun group name sets => ?_⟩
  · simp only [colorlessHost, hostOfKind, List.forall_mem_cons, keyOfVariable?_kind]
    exact ⟨by simp, fun _ => ⟨_, _, _, color, .no, rfl⟩, by simp⟩
  · obtain ⟨rfl, rfl⟩ := Prod.mk.inj (List.mem_singleton.mp (List.contains_iff_mem.mp sets))
    exact ⟨_, .tail _ (.head _), color⟩

theorem load_isLayered_of_two_files :
    (sourcesOfKind colorless).AreHeld colorlessHost "/work" ∧
      ∃ settings, (load Host.surroundings "/work").run colorlessHost =
          (.ok settings, colorlessHost) ∧
        settings.value? "sandbox" "max_operations" = some (.whole 31) ∧
        settings.value? "sandbox" "time_limit_ms" = some (.whole 10) ∧
        settings.value? "logging" "color" = some (.flag false) := by
  have areHeld : (sourcesOfKind colorless).AreHeld colorlessHost "/work" :=
    areHeld_hostOfKind (by decide +kernel) (by decide +kernel) (by decide +kernel)
      overrides_colorless
  have named : isNameless (kindOf colorlessHost.environment) = false := by decide +kernel
  obtain ⟨settings, loaded, values, _⟩ := load_isLayered areHeld
  rw [named, if_neg Bool.false_ne_true] at values
  exact ⟨areHeld, settings, loaded, (values _ _).trans rfl, (values _ _).trans rfl,
    (values _ _).trans rfl⟩

/-- A file that is named by its ending alone stands where the kind asks for it, and is left
out without a word. -/
theorem nameless_file_is_left_out :
    (sourcesOfKind .silent).AreHeld (hostOfKind "" []) "/work" ∧
      (sourcesOfKind .silent).kindFile.value? "sandbox" "max_operations" = some (.whole 31) ∧
      ∃ settings, (load Host.surroundings "/work").run (hostOfKind "" []) =
          (.ok settings, hostOfKind "" []) ∧
        settings.value? "sandbox" "max_operations" = some (.whole 10) ∧
        ¬ settings.IsLayered [(sourcesOfKind .silent).globalFile, (sourcesOfKind .silent).baseFile,
          (sourcesOfKind .silent).kindFile, (sourcesOfKind .silent).overrides] := by
  have overrides : (hostOfKind "" []).environment.Overrides .silent := by
    refine ⟨?_, nofun⟩
    simp only [hostOfKind, List.forall_mem_singleton, keyOfVariable?_kind]
    exact nofun
  have areHeld : (sourcesOfKind .silent).AreHeld (hostOfKind "" []) "/work" :=
    areHeld_hostOfKind (by decide +kernel) (by decide +kernel) (by decide +kernel) overrides
  have nameless : isNameless (kindOf (hostOfKind "" []).environment) = true := by decide +kernel
  obtain ⟨settings, loaded, values, _⟩ := areHeld.exists_load_eq
  rw [nameless, if_pos rfl] at values
  have low : settings.value? "sandbox" "max_operations" = some (.whole 10) :=
    (values _ _).trans rfl
  refine ⟨areHeld, rfl, settings, loaded, low, fun ⟨claimed, _⟩ => ?_⟩
  have high : settings.value? "sandbox" "max_operations" = some (.whole 31) :=
    (claimed _ _).trans rfl
  have same := Option.some.inj (low.symm.trans high)
  exact absurd (SettingScalar.whole.inj same) (by decide)

end PageInjection.Settings
