import PageInjection.Decimal.Read
import PageInjection.Settings
import PageInjection.Settings.Layer
import PageInjection.Text.Case
import PageInjection.Text.Quoted

/-!
# Settings from merged layers

A setting may be given as a value of a neighbouring kind: a number as a text, a
truth value as a number, a text as either.  A value that cannot be taken is
named with its key and the source it comes from.
-/

namespace PageInjection

/-- Why merged layers are no settings. -/
inductive SettingFault where
  /-- A single setting has a value that cannot be taken. -/
  | mismatch (found expected key : String) (origin : Option String)
  /-- Something else stands where a group of settings belongs. -/
  | misplaced (found expected : String)
deriving DecidableEq, Repr

namespace SettingFault

def message : SettingFault → String
  | .mismatch found expected key origin =>
      "invalid type: " ++ found ++ ", expected " ++ expected ++
        (if key.isEmpty then "" else " for key `" ++ key ++ "`") ++
        (match origin with
          | some origin => " in " ++ origin
          | none => "")
  | .misplaced found expected => "invalid type: " ++ found ++ ", expected " ++ expected

/-- The fault, seen from the table that holds the value under a name. -/
def under (name : String) : SettingFault → SettingFault
  | .mismatch found expected key origin =>
      .mismatch found expected
        (if key.isEmpty || key.startsWith "[" then name ++ key else name ++ "." ++ key) origin
  | fault => fault

/-- The fault, seen from the list that holds the value. -/
def atItem (position : Nat) : SettingFault → SettingFault
  | .mismatch found expected key origin =>
      .mismatch found expected ("[" ++ toString position ++ "]" ++ key) origin
  | fault => fault

end SettingFault

namespace Setting

/-- Takes a value out of merged layers. -/
abbrev Taker (α : Type) := Setting → Except SettingFault α

/-- A value as the fault of a single setting names it. -/
def describe : Setting → String
  | .scalar _ .nothing => "unit value"
  | .scalar _ (.flag value) => "boolean `" ++ (if value then "true" else "false") ++ "`"
  | .scalar _ (.whole value) => "64-bit integer `" ++ toString value ++ "`"
  | .scalar _ (.real value) => "floating point `" ++ Decimal.plainText value ++ "`"
  | .scalar _ (.text value) => "string " ++ Text.quoted value
  | .list _ _ => "sequence"
  | .table _ => "map"

/-- A value as the fault of a group of settings names it. -/
def describeGroup : Setting → String
  | .scalar _ (.whole value) => "integer `" ++ toString value ++ "`"
  | .scalar _ (.real value) =>
      let digits := Decimal.plainText value
      let point := if value.isFinite && !digits.toList.contains '.' then ".0" else ""
      "floating point `" ++ digits ++ point ++ "`"
  | other => other.describe

def origin : Setting → Option String
  | .scalar origin _ => origin
  | .list origin _ => origin
  | .table _ => none

def refuse (expected : String) (setting : Setting) : Except SettingFault α :=
  .error (.mismatch setting.describe expected "" setting.origin)

/-- Whether a word in lower case stands for yes or for no. -/
def isYes? (word : String) : Option Bool :=
  if ["true", "on", "yes"].contains word then some true
  else if ["false", "off", "no"].contains word then some false
  else none

/-- A truth value; numbers other than zero are true. -/
def toFlag : Taker Bool
  | .scalar _ (.flag value) => .ok value
  | .scalar _ (.whole value) => .ok (value != 0)
  | .scalar _ (.real value) => .ok (value != 0)
  | .scalar origin (.text value) =>
      let word := String.ofList (Text.toLower value.toList)
      if word = "1" then .ok true
      else if word = "0" then .ok false
      else
        match isYes? word with
        | some flag => .ok flag
        | none => refuse "a boolean" (.scalar origin (.text word))
  | other => refuse "a boolean" other

/-- A natural number of 64 bits; numbers with a fraction are rounded. -/
def toCount : Taker UInt64
  | .scalar _ (.flag value) => .ok (if value then 1 else 0)
  | .scalar origin (.whole value) =>
      if 0 ≤ value then .ok (UInt64.ofNat value.toNat)
      else refuse "an unsigned 64 bit or less integer" (.scalar origin (.whole value))
  | .scalar _ (.real value) => .ok value.round.toUInt64
  | .scalar origin (.text value) =>
      match isYes? (String.ofList (Text.toLower value.toList)), Text.uint64? value.toList with
      | some flag, _ => .ok (if flag then 1 else 0)
      | none, some number => .ok number
      | none, none => refuse "an integer" (.scalar origin (.text value))
  | other => refuse "an integer" other

/-- A text; numbers and truth values are written out. -/
def toText : Taker String
  | .scalar _ (.text value) => .ok value
  | .scalar _ (.flag value) => .ok (if value then "true" else "false")
  | .scalar _ (.whole value) => .ok (toString value)
  | .scalar _ (.real value) => .ok (Decimal.plainText value)
  | other => refuse "a string" other

/-- A text, or nothing. -/
def toText? : Taker (Option String)
  | .scalar _ .nothing => .ok none
  | other => (toText other).map some

def toTexts : Taker (List (String × String))
  | .table members => members.mapM fun (name, value) =>
      match toText value with
      | .ok text => .ok (name, text)
      | .error fault => .error (fault.under name)
  | other => .error (.misplaced other.describeGroup "a map")

/-- How a group of settings is taken: setting by setting, beginning with the
defaults.  A list gives the settings in their order. -/
structure Group (α : Type) where
  name : String
  fields : List String
  defaults : α
  set : α → String → Setting → Except SettingFault α

namespace Group

/-- Take the settings under their names; other names do not matter. -/
def takeMembers (group : Group α) (members : List (String × Setting)) : Except SettingFault α :=
  members.foldlM
    (fun settings (name, value) =>
      (group.set settings name value).mapError (SettingFault.under name))
    group.defaults

def takeItems (group : Group α) (items : List Setting) : Except SettingFault α :=
  ((group.fields.zip items).zipIdx).foldlM
    (fun settings ((name, value), position) =>
      (group.set settings name value).mapError (SettingFault.atItem position))
    group.defaults

def take (group : Group α) : Taker α
  | .table members => group.takeMembers members
  | .list _ items => group.takeItems items
  | other => .error (.misplaced other.describeGroup ("struct " ++ group.name))

end Group

end Setting

namespace StoreSettings

def group : Setting.Group StoreSettings where
  name := "StoreConfig"
  fields := ["path"]
  defaults := missing
  set settings name value :=
    match name with
    | "path" => do return { settings with path := ← Setting.toText value }
    | _ => .ok settings

end StoreSettings

namespace Limits

def group : Setting.Group Limits where
  name := "SandboxConfig"
  fields := shape.fields
  defaults := missing
  set limits name value :=
    match name with
    | "max_operations" => do return { limits with operations := ← Setting.toCount value }
    | "max_call_levels" => do return { limits with callLevels := ← Setting.toCount value }
    | "max_string_size" => do return { limits with stringBytes := ← Setting.toCount value }
    | "max_array_size" => do return { limits with arrayItems := ← Setting.toCount value }
    | "max_map_size" => do return { limits with mapMembers := ← Setting.toCount value }
    | "max_output_bytes" => do return { limits with outputBytes := ← Setting.toCount value }
    | "time_limit_ms" => do return { limits with milliseconds := ← Setting.toCount value }
    | _ => .ok limits

end Limits

namespace LoggingSettings

def group : Setting.Group LoggingSettings where
  name := "LoggingConfig"
  fields := shape.fields
  defaults := missing
  set settings name value :=
    match name with
    | "enabled" => do return { settings with enabled := ← Setting.toFlag value }
    | "level" => do return { settings with level := ← Setting.toText value }
    | "format" => do return { settings with format := ← Setting.toText value }
    | "output" => do return { settings with output := ← Setting.toText value }
    | "file" => do return { settings with file := ← Setting.toText? value }
    | "color" => do return { settings with color := ← Setting.toFlag value }
    | "modules" => do return { settings with modules := ← Setting.toTexts value }
    | _ => .ok settings

end LoggingSettings

namespace Settings

def group : Setting.Group Settings where
  name := "CodeweaveConfig"
  fields := ["store", "sandbox", "logging"]
  defaults := missing
  set settings name value :=
    match name with
    | "store" => do return { settings with store := ← StoreSettings.group.take value }
    | "sandbox" => do return { settings with sandbox := ← Limits.group.take value }
    | "logging" => do return { settings with logging := ← LoggingSettings.group.take value }
    | _ => .ok settings

/-- The settings that layers give, the later ones going before. -/
def ofLayers (layers : List SettingLayer) : Except CommandFault Settings :=
  match group.take (SettingLayer.merge layers) with
  | .ok settings => .ok settings
  | .error fault => .error (.configuration fault.message)

end Settings

end PageInjection
