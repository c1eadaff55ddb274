import PageInjection.Fault
import PageInjection.Location
import PageInjection.Logging.Settings
import PageInjection.Sandbox.Limits

/-!
# Settings

Where the store lives, what scripts may use, and what is logged.  Each part
falls back to its defaults when it is not given.
-/

namespace PageInjection

/-- Where the database is kept. -/
structure StoreSettings where
  path : String := ".codeweave/store"
deriving DecidableEq, Repr

namespace StoreSettings

/-- The directory of the database for a workspace. -/
def resolve (settings : StoreSettings) (root : String) : String :=
  Location.join root settings.path

def toJson (settings : StoreSettings) : Json :=
  .object [("path", .text settings.path)]

/-- What is read when the path is missing. -/
def missing : StoreSettings where
  path := ".codeweave/store"

theorem missing_eq_default : missing = {} := rfl

def shape : Json.RecordShape StoreSettings StoreSettings where
  name := "StoreConfig"
  fields := ["path"]
  draft := missing
  set settings name value :=
    match name with
    | "path" => do return { settings with path := ← Json.toText "path string" value }
    | _ => .ok settings
  finish := .ok
  hasDefaults := true

def ofJson : Json.Decoder StoreSettings := shape.decode

end StoreSettings

/-- All settings. -/
structure Settings where
  store : StoreSettings := {}
  sandbox : Limits := {}
  logging : LoggingSettings := {}
deriving DecidableEq, Repr

/-- What is wrong with settings. -/
inductive SettingsFault where
  | store (reason : String)
  | sandbox (reason : String)
  | logging (reason : String)
deriving DecidableEq, Repr

def SettingsFault.message : SettingsFault → String
  | .store reason => "Store: " ++ reason
  | .sandbox reason => "Sandbox: " ++ reason
  | .logging reason => "Logging: " ++ reason

namespace Settings

/-- Everything that is wrong, part by part. -/
def faults (settings : Settings) : List SettingsFault :=
  (if settings.store.path.isEmpty then [.store "Store path cannot be empty"] else []) ++
  (if settings.sandbox.callLevels > Limits.greatestCallLevels then
    [.sandbox ("max_call_levels " ++ toString settings.sandbox.callLevels.toNat ++
      " exceeds the maximum of " ++ toString Limits.greatestCallLevels.toNat)]
  else []) ++
  match settings.logging.validate with
  | .ok () => []
  | .error reason => [.logging reason]

/-- The settings when nothing is wrong with them, and all faults otherwise. -/
def validated (settings : Settings) : Except CommandFault Settings :=
  match settings.faults with
  | [] => .ok settings
  | faults =>
      .error (.configuration ("Configuration validation failed:\n" ++
        "\n".intercalate (faults.map (·.message))))

def toJson (settings : Settings) : Json :=
  .object [("logging", settings.logging.toJson), ("sandbox", settings.sandbox.toJson),
    ("store", settings.store.toJson)]

/-- What is read for each part that is missing: the defaults of that part. -/
def missing : Settings where
  store := {}
  sandbox := {}
  logging := {}

theorem missing_eq_default : missing = {} := rfl

def shape : Json.RecordShape Settings Settings where
  name := "CodeweaveConfig"
  fields := ["store", "sandbox", "logging"]
  draft := missing
  set settings name value :=
    match name with
    | "store" => do return { settings with store := ← StoreSettings.ofJson value }
    | "sandbox" => do return { settings with sandbox := ← Limits.ofJson value }
    | "logging" => do return { settings with logging := ← LoggingSettings.ofJson value }
    | _ => .ok settings
  finish := .ok
  hasDefaults := true

def ofJson : Json.Decoder Settings := shape.decode

end Settings

end PageInjection
