import PageInjection.Environment
import PageInjection.Json.Read
import PageInjection.Settings.Layer
import PageInjection.Text.Case
import PageInjection.Text.Quoted
import PageInjection.Toml.Read

/-!
# Where layers come from

A layer is read from a TOML document, from a JSON document, or from the
environment.  Names are taken in lower case.
-/

namespace PageInjection

def lowerName (name : String) : String :=
  String.ofList (Text.toLower name.toList)

namespace Setting

/-- A number, a text or another single value. -/
def ofScalar (origin : String) (value : SettingScalar) : Setting :=
  .scalar (some origin) value

mutual

def ofToml (origin : String) : Toml → Setting
  | .text value => ofScalar origin (.text value)
  | .whole value => ofScalar origin (.whole value)
  | .real value => ofScalar origin (.real value)
  | .flag value => ofScalar origin (.flag value)
  | .moment value => ofScalar origin (.text value)
  | .list _ items => .list (some origin) (ofTomlItems origin items)
  | .table _ members => .table (ofTomlMembers origin members)

def ofTomlItems (origin : String) : List Toml → List Setting
  | [] => []
  | item :: items => ofToml origin item :: ofTomlItems origin items

/-- The members of a table in a TOML document. -/
def ofTomlMembers (origin : String) : List (String × Toml) → SettingLayer
  | [] => []
  | (name, value) :: members =>
      (lowerName name, ofToml origin value) :: ofTomlMembers origin members

end

mutual

def ofJson (origin : String) : Json → Setting
  | .null => ofScalar origin .nothing
  | .bool value => ofScalar origin (.flag value)
  | .integer value =>
      ofScalar origin
        (if value < 0x8000000000000000 then .whole value else .real (Float.ofInt value))
  | .real value => ofScalar origin (.real value)
  | .text value => ofScalar origin (.text value)
  | .list items => .list (some origin) (ofJsonItems origin items)
  | .object members => .table (ofJsonMembers origin members)

def ofJsonItems (origin : String) : List Json → List Setting
  | [] => []
  | item :: items => ofJson origin item :: ofJsonItems origin items

/-- The members of an object in a JSON document. -/
def ofJsonMembers (origin : String) : List (String × Json) → SettingLayer
  | [] => []
  | (name, value) :: members =>
      (lowerName name, ofJson origin value) :: ofJsonMembers origin members

end

end Setting

namespace SettingLayer

def ofToml (origin text : String) : Except String SettingLayer :=
  (Toml.read text).map (Setting.ofTomlMembers origin)

/-- What a JSON document is that is no object. -/
def describeRoot : Json → String
  | .null => "unit value"
  | .bool value => "boolean `" ++ (if value then "true" else "false") ++ "`"
  | .integer value =>
      if value < 0x8000000000000000 then "64-bit integer `" ++ toString value ++ "`"
      else "floating point `" ++ Decimal.plainText (Float.ofInt value) ++ "`"
  | .real value => "floating point `" ++ Decimal.plainText value ++ "`"
  | .text value => "string " ++ Text.quoted value
  | .list _ => "sequence"
  | .object _ => "map"

def ofJson (origin text : String) : Except String SettingLayer :=
  match Json.read text with
  | .ok (.object members) => .ok (Setting.ofJsonMembers origin members)
  | .ok other =>
      .error ("invalid type: " ++ describeRoot other ++ ", expected a map in " ++ origin ++
        " in " ++ origin)
  | .error reason => .error (reason ++ " in " ++ origin)

/-- The pieces of a name between pairs of lower lines. -/
def pieces : List Char → List (List Char)
  | [] => [[]]
  | '_' :: '_' :: rest => [] :: pieces rest
  | c :: rest =>
      match pieces rest with
      | [] => [[c]]
      | piece :: more => (c :: piece) :: more

/-- The key a variable is about: what follows the lead, with a point for every
pair of lower lines. -/
def keyOfVariable? (name : String) : Option String :=
  (Text.dropLead? "codeweave__".toList (Text.toLower name.toList)).map fun rest =>
    String.ofList (Text.joinWith ['.'] (pieces rest))

/-- The value a variable gives: a truth value, a number, or a text. -/
def scalarOfVariable (value : String) : SettingScalar :=
  let lower := lowerName value
  if lower = "true" then .flag true
  else if lower = "false" then .flag false
  else
    match Text.readInteger 0x7FFFFFFFFFFFFFFF value.toList with
    | .ok number => .whole number
    | .error _ =>
        match Decimal.read? value.toList with
        | some number => .real number
        | none => .text value

def ofEnvironment (environment : Environment) : SettingLayer :=
  environment.entries.filterMap fun (name, value) =>
    (keyOfVariable? name).map fun key =>
      (key, Setting.ofScalar "the environment" (scalarOfVariable value))

/-- The values that hold when no source says otherwise. -/
def builtIn : SettingLayer :=
  [("store.path", .scalar none (.text ".codeweave/store")),
    ("logging.level", .scalar none (.text "info")),
    ("logging.output", .scalar none (.text "stderr"))]

end SettingLayer

end PageInjection
