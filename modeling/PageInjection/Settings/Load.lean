import PageInjection.Settings.Document
import PageInjection.Settings.Read
import PageInjection.Surroundings

/-!
# Loading settings

Settings come from the built-in values, from files, and from the environment, in
this order.  Without a file of the operator's choice, these are the global file
and two files of the workspace; they may be missing.
-/

namespace PageInjection.Settings

/-- Why a file of settings cannot be used. -/
inductive FileFault where
  | notFound (path : String)
  | unknownFormat (path : String)
  | unreadable (fault : DiskFault)
  | malformed (reason : String)
deriving DecidableEq, Repr

def FileFault.message : FileFault → String
  | .notFound path => "configuration file \"" ++ path ++ "\" not found"
  | .unknownFormat path =>
      "configuration file \"" ++ path ++ "\" is not of a registered file format"
  | .unreadable fault => fault.message
  | .malformed reason => reason

/-- The formats of files. -/
inductive FileFormat where
  | toml
  | json
deriving DecidableEq, Repr

/-- The endings of the names of files, and the formats they stand for. -/
def FileFormat.endings : List (String × FileFormat) :=
  [("toml", .toml), ("json", .json)]

def FileFormat.layer (format : FileFormat) (origin text : String) :
    Except FileFault SettingLayer :=
  let result := match format with
    | .toml => SettingLayer.ofToml origin text
    | .json => SettingLayer.ofJson origin text
  result.mapError .malformed

/-- The folder of a program's files below a folder that a variable names or
that lies in the home folder. -/
def globalPath? (environment : Environment) : Option String :=
  let base? := match environment.filled? "XDG_CONFIG_HOME" with
    | some folder => some folder
    | none => (environment.get? "HOME").map (Location.join · ".config")
  base?.map fun base => Location.join (Location.join base "codeweave") "config.toml"

/-- The files of a workspace: one that always holds, and one for the kind of
surroundings. -/
def workspacePaths (environment : Environment) (root : String) : List String :=
  let kind := (environment.get? "CODEWEAVE_ENV").getD "development"
  ["config.toml", kind ++ ".toml"].map (Location.join (Location.join root "config"))

section

variable {m : Type → Type} [Monad m] (outside : Surroundings m)

/-- The bytes of a file, if a path leads to one. -/
def fileAt? (path : String) : m (Option DiskEntry) := do
  match ← outside.look path with
  | .ok (.file bytes) => return some (.file bytes)
  | _ => return none

/-- Find a file: the one with this very name, or one with an ending more. -/
def findFile (path : String) : m (Except FileFault (String × FileFormat × DiskEntry)) := do
  let whole := Location.join (← outside.currentFolder) path
  match ← fileAt? outside whole with
  | some file =>
      match (Location.extension? whole).bind (FileFormat.endings.lookup ·) with
      | some format => return .ok (whole, format, file)
      | none => return .error (.unknownFormat whole)
  | none =>
      let longer := FileFormat.endings.map fun (ending, format) =>
        (Location.withEnding whole ("." ++ ending), format)
      for (whole, format) in longer do
        if let some file ← fileAt? outside whole then return .ok (whole, format, file)
      return .error (.notFound path)

def fileLayer (path : String) : m (Except FileFault SettingLayer) := do
  match ← findFile outside path with
  | .error fault => return .error fault
  | .ok (whole, format, file) =>
      let origin := Location.relativeTo (← outside.currentFolder) whole
      match file.text with
      | .ok text => return format.layer origin text
      | .error fault => return .error (.unreadable fault)

/-- The layer of a file that need not be there; only a file that can be read
must be right. -/
def optionalLayer (path : String) : m (Except FileFault SettingLayer) := do
  match ← fileLayer outside path with
  | .error (.malformed reason) => return .error (.malformed reason)
  | .error _ => return .ok []
  | .ok layer => return .ok layer

/-- The path of the global file, and whether anything is there. -/
def globalFile? : m (Option (String × Bool)) := do
  match globalPath? (← outside.environment) with
  | none => return none
  | some path => return some (path, (← outside.look path).isOk)

def globalSource? : m (Option String) := do
  match ← globalFile? outside with
  | some (path, true) =>
      let whole := Location.join (← outside.currentFolder) path
      return some (Location.ofNames true (Location.settled (Location.names whole)))
  | _ => return none

/-- The layers of the files that are there, the global one first. -/
def standingLayers (root : String) : m (Except FileFault (List SettingLayer)) := do
  let mut paths := (← globalSource? outside).toList
  for path in workspacePaths (← outside.environment) root do
    if (← fileAt? outside path).isSome then paths := paths ++ [path]
  let mut layers := []
  for path in paths do
    match ← optionalLayer outside path with
    | .ok layer => layers := layers ++ [layer]
    | .error fault => return .error fault
  return .ok layers

/-- Settings from files, below the environment and above the built-in values. -/
def assemble (files : Except FileFault (List SettingLayer)) (environment : Environment) :
    Except CommandFault Settings :=
  match files with
  | .ok layers =>
      ofLayers ([SettingLayer.builtIn] ++ layers ++ [SettingLayer.ofEnvironment environment])
  | .error fault => .error (.configuration fault.message)

def load (root : String) : m (Except CommandFault Settings) := do
  return assemble (← standingLayers outside root) (← outside.environment)

def loadFile (path : String) : m (Except CommandFault Settings) := do
  return assemble ((← fileLayer outside path).map ([·])) (← outside.environment)

/-- The settings for a workspace and a file of the operator's choice. -/
def loadFor (root : String) (file : Option String) : m (Except CommandFault Settings) :=
  match file with
  | some path => loadFile outside path
  | none => load outside root

end

end PageInjection.Settings
