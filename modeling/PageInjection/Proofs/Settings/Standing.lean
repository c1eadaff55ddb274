import PageInjection.Proofs.Disk
import PageInjection.Proofs.Settings.Said
import PageInjection.Proofs.Text.Utf8
import PageInjection.Settings.Load

/-!
# Files of settings that stand on a disk

A file that stands where a path leads gives a layer of its own.
-/

namespace PageInjection

open Location (IsName EndsIn)

namespace Location

theorem isAbsolute_join {root path : String} (absolute : isAbsolute root = true) :
    isAbsolute (join root path) = true := by
  rw [isAbsolute, String.startsWith_string_iff] at absolute
  obtain ⟨rest, same⟩ := absolute
  unfold join
  split
  · assumption
  · rw [isAbsolute, String.startsWith_string_iff]
    split
    · exact ⟨rest ++ path.toList, by simp [← same]⟩
    · exact ⟨rest ++ "/".toList ++ path.toList, by simp [← same]⟩

end Location

namespace Host

/-- The current folder stands where its path leads to from the root. -/
structure HasCurrentFolder (host : Host) : Prop where
  absolute : Location.isAbsolute host.currentFolder = true
  reached : host.disk.IsReached host.current
  isFolder : host.disk.at? host.current = some .folder

/-- The file that a path leads to. -/
def file? (host : Host) (path : String) : Option DiskEntry :=
  match host.disk.look host.current path with
  | .ok (.file bytes) => some (.file bytes)
  | _ => none

theorem look_of_file? {host : Host} {path : String} {entry : DiskEntry}
    (found : host.file? path = some entry) : host.disk.look host.current path = .ok entry := by
  unfold file? at found
  split at found
  · rename_i looked
    rw [looked, Option.some.inj found]
  · exact nomatch found

namespace HasCurrentFolder

variable {host : Host} {path name : String}

/-- Below the current folder a path leads where it leads anyway. -/
theorem follow_join (stands : host.HasCurrentFolder) (endsIn : EndsIn path name)
    (isName : IsName name) :
    host.disk.follow host.current (Location.join host.currentFolder path) =
      host.disk.follow host.current path := by
  cases absolute : Location.isAbsolute path with
  | true => rw [Location.join_of_isAbsolute _ absolute]
  | false =>
      have home : (Location.names host.currentFolder).foldlM (host.disk.step ·) [] =
          .ok host.current := Disk.IsReached.foldlM_eq [] host.current stands.reached
      rw [Disk.follow_eq (endsIn.join _) isName, Disk.follow_eq endsIn isName,
        Location.names_join absolute, Disk.start, Disk.start,
        Location.isAbsolute_join stands.absolute, absolute, if_pos rfl, List.foldlM_append, home]
      rfl

theorem look_join (stands : host.HasCurrentFolder) (endsIn : EndsIn path name)
    (isName : IsName name) :
    host.disk.look host.current (Location.join host.currentFolder path) =
      host.disk.look host.current path := by
  rw [Disk.look, stands.follow_join endsIn isName, ← Disk.look]

/-- Without double points a path leads where it leads with them. -/
theorem look_settled (stands : host.HasCurrentFolder) (endsIn : EndsIn path name)
    (isName : IsName name) {place : List String}
    (followed : host.disk.follow host.current path = .ok place) :
    EndsIn (Location.ofNames true
        (Location.settled (Location.names (Location.join host.currentFolder path)))) name ∧
      host.disk.look host.current (Location.ofNames true
        (Location.settled (Location.names (Location.join host.currentFolder path)))) =
      host.disk.look host.current path := by
  -- From the root, the names lead to the place that they are settled to.
  have whole := endsIn.join host.currentFolder
  have walked := stands.follow_join endsIn isName
  rw [followed, Disk.follow_eq whole isName, Disk.start,
    Location.isAbsolute_join stands.absolute, if_pos rfl] at walked
  obtain ⟨reached, settled⟩ := (Disk.isReached_nil host.disk).foldlM
    (fun _ member => Location.isName_of_mem_names member) walked
  have place_eq : Location.settled (Location.names (Location.join host.currentFolder path)) =
      place := by
    rw [Location.settled, ← List.reverse_inj, List.reverse_reverse]
    exact settled.symm
  obtain ⟨front, names_eq⟩ := List.getLast?_eq_some_iff.mp (whole.getLast?_names isName)
  have last : place.getLast? = some name := by
    rw [← List.head?_reverse, settled, names_eq, List.foldl_append]
    simp [isName.notAbove]
  rw [place_eq]
  exact ⟨.ofNames (fun other member => (reached.isName other member).slashless) last,
    reached.look_ofNames last followed _⟩

end HasCurrentFolder

end Host

namespace Settings

variable {host : Host} {path name : String}

theorem environment_surroundings (host : Host) :
    Host.surroundings.environment host = (host.environment, host) := rfl

theorem currentFolder_surroundings (host : Host) :
    Host.surroundings.currentFolder host = (host.currentFolder, host) := rfl

theorem look_surroundings (host : Host) (path : String) :
    Host.surroundings.look path host = (host.disk.look host.current path, host) := rfl

theorem fileAt?_surroundings (host : Host) (path : String) :
    fileAt? Host.surroundings path host = (host.file? path, host) := by
  simp only [fileAt?, bind, StateT.bind, look_surroundings, Host.file?]
  rcases host.disk.look host.current path with fault | _ | bytes <;> rfl

/-- A file that is found under its very name has the format of its ending. -/
theorem findFile_of_file {bytes : List UInt8}
    (found : host.disk.look host.current (Location.join host.currentFolder path) =
      .ok (.file bytes)) :
    findFile Host.surroundings path host =
      (match (Location.extension? (Location.join host.currentFolder path)).bind
          (FileFormat.endings.lookup ·) with
        | some format => .ok (Location.join host.currentFolder path, format, .file bytes)
        | none => .error (.unknownFormat (Location.join host.currentFolder path)), host) := by
  simp only [findFile, bind, StateT.bind, currentFolder_surroundings, fileAt?_surroundings,
    Host.file?, found]
  cases (Location.extension? (Location.join host.currentFolder path)).bind
    (FileFormat.endings.lookup ·) <;> rfl

theorem optionalLayer_of_toml {bytes : List UInt8} {text : String} {members : Toml.Members}
    (found : host.disk.look host.current (Location.join host.currentFolder path) =
      .ok (.file bytes))
    (ending : Location.extension? (Location.join host.currentFolder path) = some "toml")
    (decoded : DiskEntry.text (.file bytes) = .ok text) (read : Toml.read text = .ok members) :
    ∃ origin, optionalLayer Host.surroundings path host =
      (.ok (Setting.ofTomlMembers origin members), host) := by
  have format : FileFormat.endings.lookup "toml" = some .toml := by decide
  refine ⟨Location.relativeTo host.currentFolder (Location.join host.currentFolder path), ?_⟩
  simp only [optionalLayer, fileLayer, bind, StateT.bind, findFile_of_file found, ending,
    Option.bind_some, format, currentFolder_surroundings, decoded, FileFormat.layer,
    SettingLayer.ofToml, read]
  rfl

/-- A file whose name has no ending is left out, whatever it holds. -/
theorem optionalLayer_of_endless {bytes : List UInt8}
    (found : host.disk.look host.current (Location.join host.currentFolder path) =
      .ok (.file bytes))
    (endless : Location.extension? (Location.join host.currentFolder path) = none) :
    optionalLayer Host.surroundings path host = (.ok [], host) := by
  simp only [optionalLayer, fileLayer, bind, StateT.bind, findFile_of_file found, endless,
    Option.bind_none]
  rfl

/-! ## The layers of many files -/

/-- A loop whose steps leave the host alone and never stop early. -/
theorem forIn_eq_foldl {α β : Type} {items : List α} {body : α → β → StateM Host (ForInStep β)}
    (next : β → α → β)
    (each : ∀ item ∈ items, ∀ state, body item state host = (.yield (next state item), host))
    (state : β) : forIn items state body host = (items.foldl next state, host) := by
  induction items generalizing state with
  | nil => rfl
  | cons item items ih =>
      obtain ⟨first, rest⟩ := List.forall_mem_cons.mp each
      rw [List.forIn_cons]
      simp only [bind, StateT.bind, first, List.foldl_cons]
      exact ih rest _

/-- A file that is found, with its layer and what its layer tells. -/
structure StandingFile where
  path : String
  layer : SettingLayer
  source : SettingSource

theorem foldl_filter_eq_append (paths chosen : List String) (isChosen : String → Bool) :
    paths.foldl (fun chosen path => if isChosen path then chosen ++ [path] else chosen) chosen =
      chosen ++ paths.filter isChosen := by
  induction paths generalizing chosen with
  | nil => simp
  | cons path paths ih => cases standing : isChosen path <;> simp [standing, ih]

theorem foldl_layers_eq_append {α : Type} (files : List StandingFile) (layers : List SettingLayer) :
    files.foldl (fun (state : Option α × List SettingLayer) file =>
      (none, state.2 ++ [file.layer])) (none, layers) =
      (none, layers ++ files.map (·.layer)) := by
  induction files generalizing layers with
  | nil => simp
  | cons file files ih => simp [ih]

theorem standingLayers_eq {root : String} {source? : Option String} {files : List StandingFile}
    (globalFile : globalSource? Host.surroundings host = (source?, host))
    (paths : source?.toList ++ (workspacePaths host.environment root).filter
      (fun path => (host.file? path).isSome) = files.map (·.path))
    (each : ∀ file ∈ files, optionalLayer Host.surroundings file.path host =
      (.ok file.layer, host)) :
    standingLayers Host.surroundings root host = (.ok (files.map (·.layer)), host) := by
  -- One loop picks the files that stand, the other one reads them.
  simp only [standingLayers, bind, StateT.bind, globalFile, environment_surroundings]
  rw [forIn_eq_foldl fun chosen path =>
    if (host.file? path).isSome then chosen ++ [path] else chosen]
  · simp only [foldl_filter_eq_append, paths, List.forIn_map]
    rw [forIn_eq_foldl fun state file => (none, state.2 ++ [file.layer])]
    · rw [foldl_layers_eq_append]
      rfl
    · intro file member state
      simp only [StateT.bind, each file member]
      rfl
  · intro path _ chosen
    simp only [StateT.bind, fileAt?_surroundings]
    cases host.file? path <;> rfl

/-! ## What files give -/

/-- What the document at a path sets; where no file stands, nothing is set. -/
inductive Gives (host : Host) (path : String) : SettingSource → Prop where
  | document {bytes : List UInt8} {text : String} {members : Toml.Members}
      {source : SettingSource} : host.disk.look host.current path = .ok (.file bytes) →
      DiskEntry.text (.file bytes) = .ok text → Toml.read text = .ok members →
      Toml.IsDocumentOf members source → Gives host path source
  | nothing : host.file? path = none → Gives host path .silent

theorem gives_of_toml {text : String} {members : Toml.Members} {source : SettingSource}
    (found : host.file? path = some (.file (Text.encode text.toList)))
    (read : Toml.read text = .ok members) (isDocument : Toml.IsDocumentOf members source) :
    Gives host path source :=
  .document (Host.look_of_file? found) (by simp [DiskEntry.text]) read isDocument

/-- Files are read without a fault, and together they tell what sources set. -/
structure AreRead (host : Host) (files : List StandingFile) (sources : List SettingSource) :
    Prop where
  read : ∀ file ∈ files, optionalLayer Host.surroundings file.path host = (.ok file.layer, host)
  isSaid : ∀ file ∈ files, file.layer.Says file.source.value?
  value?_eq : ∀ group name,
    (files.reverse.findSome? fun file => file.source.value? group name) =
      sources.reverse.findSome? fun source => source.value? group name

namespace AreRead

variable {files others : List StandingFile} {sources more : List SettingSource}

theorem nil (host : Host) : AreRead host [] [.silent] where
  read := by simp
  isSaid := by simp
  value?_eq _ _ := rfl

theorem singleton {file : StandingFile}
    (read : optionalLayer Host.surroundings file.path host = (.ok file.layer, host))
    (isSaid : file.layer.Says file.source.value?) : AreRead host [file] [file.source] where
  read := List.forall_mem_singleton.mpr read
  isSaid := List.forall_mem_singleton.mpr isSaid
  value?_eq _ _ := rfl

theorem append (areRead : AreRead host files sources) (alsoRead : AreRead host others more) :
    AreRead host (files ++ others) (sources ++ more) where
  read := List.forall_mem_append.mpr ⟨areRead.read, alsoRead.read⟩
  isSaid := List.forall_mem_append.mpr ⟨areRead.isSaid, alsoRead.isSaid⟩
  value?_eq group name := by
    simp [List.findSome?_append, areRead.value?_eq, alsoRead.value?_eq]

/-- Settings that the files decide are decided by what the files tell. -/
theorem isLayered_append {settings : Settings} {upper : List SettingSource}
    (areRead : AreRead host files sources)
    (layered : settings.IsLayered (files.map (·.source) ++ upper)) :
    settings.IsLayered (sources ++ upper) := by
  refine ⟨fun group name => ?_, layered.2⟩
  rw [layered.1, List.reverse_append, List.reverse_append, List.findSome?_append,
    List.findSome?_append, ← areRead.value?_eq, ← List.map_reverse, List.findSome?_map]
  rfl

end AreRead

theorem isName_toml {stem : String} (slashless : '/' ∉ stem.toList) :
    IsName (stem ++ "." ++ "toml") := by
  have ends {other : String} (same : stem ++ "." ++ "toml" = other) :
      other.toList.getLast? = some 'l' := by
    rw [← same]
    simp
  refine ⟨fun same => ?_, fun same => ?_, fun same => ?_, by simpa using slashless⟩
  all_goals exact absurd (ends same) (by decide)

theorem optionalLayer_of_look {stem : String} {bytes : List UInt8} {text : String}
    {members : Toml.Members} {source : SettingSource}
    (endsIn : EndsIn (Location.join host.currentFolder path) (stem ++ "." ++ "toml"))
    (slashless : '/' ∉ stem.toList)
    (found : host.disk.look host.current (Location.join host.currentFolder path) =
      .ok (.file bytes))
    (decoded : DiskEntry.text (.file bytes) = .ok text) (read : Toml.read text = .ok members)
    (isDocument : Toml.IsDocumentOf members source) :
    ∃ layer, optionalLayer Host.surroundings path host = (.ok layer, host) ∧
      layer.Says (if stem = "" then .silent else source : SettingSource).value? := by
  have ending := endsIn.extension?_eq (isName_toml slashless) (by decide)
  by_cases nameless : stem = ""
  · rw [if_pos nameless] at ending ⊢
    exact ⟨[], optionalLayer_of_endless found ending, SettingLayer.Says.nil⟩
  · rw [if_neg nameless] at ending ⊢
    obtain ⟨origin, layered⟩ := optionalLayer_of_toml found ending decoded read
    exact ⟨_, layered, isDocument.layer_isSaid⟩

theorem exists_workspaceFile {stem : String} {source : SettingSource}
    (stands : host.HasCurrentFolder) (gives : Gives host path source)
    (endsIn : EndsIn path (stem ++ "." ++ "toml")) (slashless : '/' ∉ stem.toList) :
    ∃ files, AreRead host files [if stem = "" then .silent else source] ∧
      [path].filter (fun path => (host.file? path).isSome) = files.map (·.path) := by
  cases gives with
  | nothing absent => exact ⟨[], by simpa using AreRead.nil host, by simp [absent]⟩
  | document found decoded read isDocument =>
      have present : (host.file? path).isSome = true := by simp [Host.file?, found]
      have again := stands.look_join endsIn (isName_toml slashless)
      obtain ⟨layer, layered, isSaid⟩ := optionalLayer_of_look (endsIn.join _) slashless
        (again.trans found) decoded read isDocument
      exact ⟨[⟨path, layer, _⟩], .singleton layered isSaid, by simp [present]⟩

theorem endsIn_globalPath (globalPath : globalPath? host.environment = some path) :
    EndsIn path ("config" ++ "." ++ "toml") := by
  obtain ⟨base, _, rfl⟩ := Option.map_eq_some_iff.mp globalPath
  exact (Location.endsIn_of_slashless (by decide)).join _

theorem globalSource?_of_none (globalPath : globalPath? host.environment = none) :
    globalSource? Host.surroundings host = (none, host) := by
  simp only [globalSource?, globalFile?, bind, StateT.bind, environment_surroundings, globalPath]
  rfl

theorem globalSource?_of_error {fault : DiskFault}
    (globalPath : globalPath? host.environment = some path)
    (missing : host.disk.look host.current path = .error fault) :
    globalSource? Host.surroundings host = (none, host) := by
  simp only [globalSource?, globalFile?, bind, StateT.bind, environment_surroundings, globalPath,
    look_surroundings, missing]
  rfl

theorem exists_globalFile {source : SettingSource} (stands : host.HasCurrentFolder)
    (globalPath : globalPath? host.environment = some path) (gives : Gives host path source)
    (noFolder : host.disk.look host.current path ≠ .ok .folder) :
    ∃ files source?, AreRead host files [source] ∧
      globalSource? Host.surroundings host = (source?, host) ∧
      source?.toList = files.map (·.path) := by
  have slashless : '/' ∉ "config".toList := by decide
  have endsIn := endsIn_globalPath globalPath
  cases gives with
  | nothing absent =>
      have missing : ∃ fault, host.disk.look host.current path = .error fault := by
        unfold Host.file? at absent
        rcases looked : host.disk.look host.current path with fault | _ | bytes
        · exact ⟨fault, rfl⟩
        · exact absurd looked noFolder
        · simp [looked] at absent
      obtain ⟨fault, missing⟩ := missing
      exact ⟨[], none, .nil host, globalSource?_of_error globalPath missing, rfl⟩
  | document found decoded read isDocument =>
      have followed : ∃ place, host.disk.follow host.current path = .ok place := by
        cases followed : host.disk.follow host.current path with
        | ok place => exact ⟨place, rfl⟩
        | error fault => simp [Disk.look, followed, bind, Except.bind] at found
      obtain ⟨place, followed⟩ := followed
      obtain ⟨settledIn, same⟩ := stands.look_settled endsIn (isName_toml slashless) followed
      have absolute := Location.join_of_isAbsolute host.currentFolder
        (Location.isAbsolute_ofNames
          (Location.settled (Location.names (Location.join host.currentFolder path))))
      obtain ⟨layer, layered, isSaid⟩ := optionalLayer_of_look (absolute.symm ▸ settledIn) slashless
        (absolute.symm ▸ same.trans found) decoded read isDocument
      refine ⟨[⟨_, layer, source⟩], some _, .singleton layered isSaid, ?_, rfl⟩
      simp only [globalSource?, globalFile?, bind, StateT.bind, environment_surroundings,
        globalPath, look_surroundings, found]
      rfl

end Settings

end PageInjection
