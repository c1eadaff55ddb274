import PageInjection.Json.Decode

/-!
# Logging settings

Which messages are logged, how they look and where they go.
-/

namespace PageInjection

/-- The settings of the log. -/
structure LoggingSettings where
  enabled : Bool := true
  level : String := "info"
  format : String := "text"
  output : String := "stderr"
  file : Option String := none
  color : Bool := true
  modules : List (String × String) := []
deriving DecidableEq, Repr

/-- How a log line looks. -/
inductive LogFormat where
  | json
  | text
deriving DecidableEq, Repr

/-- Where log lines go. -/
structure LogTargets where
  stdout : Bool := false
  stderr : Bool := false
  file : Bool := false
deriving DecidableEq, Repr

namespace LogFormat

def ofWord (word : String) : Except String LogFormat :=
  if word = "json" then .ok .json
  else if word = "text" then .ok .text
  else .error ("Invalid log format: " ++ word ++ " (must be 'json' or 'text')")

end LogFormat

namespace LogTargets

def ofWord (word : String) : Except String LogTargets :=
  if word = "stdout" then .ok { stdout := true }
  else if word = "stderr" then .ok { stderr := true }
  else if word = "file" then .ok { file := true }
  else if word = "file+stderr" then .ok { file := true, stderr := true }
  else if word = "both" then .ok { stdout := true, stderr := true }
  else
    .error ("Invalid log output: " ++ word ++
      " (must be 'stdout', 'stderr', 'file', 'file+stderr', or 'both')")

end LogTargets

namespace LoggingSettings

def levelWords : List String := ["trace", "debug", "info", "warn", "error", "off"]

/-- Check format, output and level, in this order. -/
def validate (settings : LoggingSettings) : Except String Unit := do
  let _ ← LogFormat.ofWord settings.format
  let _ ← LogTargets.ofWord settings.output
  if levelWords.contains settings.level then return ()
  else throw ("Invalid log level: " ++ settings.level)

def toJson (settings : LoggingSettings) : Json :=
  .object [
    ("color", .bool settings.color),
    ("enabled", .bool settings.enabled),
    ("file", .ofText? settings.file),
    ("format", .text settings.format),
    ("level", .text settings.level),
    ("modules", Json.ofMembers (settings.modules.map fun (name, level) => (name, .text level))),
    ("output", .text settings.output)]

/-- What is read for each field that is missing. -/
def missing : LoggingSettings where
  enabled := true
  level := "info"
  format := "text"
  output := "stderr"
  file := none
  color := true
  modules := []

theorem missing_eq_default : missing = {} := rfl

/-- How settings are read. -/
def shape : Json.RecordShape LoggingSettings LoggingSettings where
  name := "LoggingConfig"
  fields := ["enabled", "level", "format", "output", "file", "color", "modules"]
  draft := missing
  set settings name value :=
    match name with
    | "enabled" => do return { settings with enabled := ← Json.toBool value }
    | "level" => do return { settings with level := ← Json.toText "a string" value }
    | "format" => do return { settings with format := ← Json.toText "a string" value }
    | "output" => do return { settings with output := ← Json.toText "a string" value }
    | "file" => do
      return { settings with file := ← Json.toOption (Json.toText "path string") value }
    | "color" => do return { settings with color := ← Json.toBool value }
    | "modules" => do return { settings with modules := ← Json.toTextMap value }
    | _ => .ok settings
  finish := .ok
  hasDefaults := true

def ofJson : Json.Decoder LoggingSettings := shape.decode

end LoggingSettings

end PageInjection
