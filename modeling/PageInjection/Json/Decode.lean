import PageInjection.Json
import PageInjection.Text.Quoted

/-!
# Taking values out of JSON

Readers for the kinds of values that records are made of.  A record may be
written as an object, with its fields under their names, or as the list of its
fields in order.  A refusal says what was found and what was expected.
-/

namespace PageInjection.Json

/-- Why a JSON value does not describe the wanted value. -/
inductive Refusal where
  | wrongType (found expected : String)
  | wrongValue (found expected : String)
  | wrongLength (length : Nat) (expected : String)
  | unknownWord (word : String) (expected : List String)
  | missingField (name : String)
deriving DecidableEq, Repr

def alternatives : List String → String
  | [] => "there are no variants"
  | [one] => "expected `" ++ one ++ "`"
  | [one, two] => "expected `" ++ one ++ "` or `" ++ two ++ "`"
  | words => "expected one of " ++ ", ".intercalate (words.map fun word => "`" ++ word ++ "`")

def Refusal.message : Refusal → String
  | .wrongType found expected => "invalid type: " ++ found ++ ", expected " ++ expected
  | .wrongValue found expected => "invalid value: " ++ found ++ ", expected " ++ expected
  | .wrongLength length expected =>
    "invalid length " ++ toString length ++ ", expected " ++ expected
  | .unknownWord word expected => "unknown variant `" ++ word ++ "`, " ++ alternatives expected
  | .missingField name => "missing field `" ++ name ++ "`"

def describe : Json → String
  | .null => "null"
  | .bool value => "boolean `" ++ (if value then "true" else "false") ++ "`"
  | .integer value => "integer `" ++ toString value ++ "`"
  | .real value => "floating point `" ++ realText value ++ "`"
  | .text value => "string " ++ Text.quoted value
  | .list _ => "sequence"
  | .object _ => "map"

/-- Reads a value out of JSON. -/
abbrev Decoder (α : Type) := Json → Except Refusal α

def toBool : Decoder Bool
  | .bool value => .ok value
  | other => .error (.wrongType other.describe "a boolean")

/-- A text; `expected` says what the text is for. -/
def toText (expected : String) : Decoder String
  | .text value => .ok value
  | other => .error (.wrongType other.describe expected)

/-- A natural number below `2 ^ 64`; `expected` is the name of its type. -/
def toUInt64 (expected : String) : Decoder UInt64
  | .integer value =>
      if 0 ≤ value ∧ value < 0x10000000000000000 then .ok (UInt64.ofNat value.toNat)
      else .error (.wrongValue (Json.integer value).describe expected)
  | other => .error (.wrongType other.describe expected)

def toInt64 : Decoder Int64
  | .integer value =>
      if -0x8000000000000000 ≤ value ∧ value < 0x8000000000000000 then .ok (Int64.ofInt value)
      else .error (.wrongValue (Json.integer value).describe "i64")
  | other => .error (.wrongType other.describe "i64")

def toOption (decode : Decoder α) : Decoder (Option α)
  | .null => .ok none
  | value => (decode value).map some

def toTexts : Decoder (List String)
  | .list items => items.mapM (toText "a string")
  | other => .error (.wrongType other.describe "a sequence")

def toTextMap : Decoder (List (String × String))
  | .object members => members.mapM fun (name, value) => do
      return (name, ← toText "a string" value)
  | other => .error (.wrongType other.describe "a map")

/-- Nothing, as the content of a word written as an object. -/
def toNothing : Decoder Unit
  | .null => .ok ()
  | other => .error (.wrongType other.describe "unit")

/-- A choice between words, some of which carry a value.  A word is written as
a text, or as an object with the word as its only member. -/
def toVariant (words : List String) (decode : String → Option Json → Except Refusal α) :
    Decoder α
  | .text word =>
      if words.contains word then decode word none else .error (.unknownWord word words)
  | .object [(word, content)] =>
      if words.contains word then decode word (some content)
      else .error (.unknownWord word words)
  | .object _ => .error (.wrongValue "map" "map with a single key")
  | other => .error (.wrongType other.describe "string or map")

/-- A choice between words that carry nothing. -/
def toWord (words : List (String × α)) : Decoder α :=
  toVariant (words.map (·.1)) fun word content => do
    if let some content := content then toNothing content
    match words.lookup word with
    | some value => return value
    | none => throw (.unknownWord word (words.map (·.1)))

/-- How a record is read: field by field into a draft `δ`, then finished. -/
structure RecordShape (δ α : Type) where
  name : String
  fields : List String
  draft : δ
  set : δ → String → Json → Except Refusal δ
  finish : δ → Except Refusal α
  hasDefaults : Bool

namespace RecordShape

def tooShort (shape : RecordShape δ α) (length : Nat) : Refusal :=
  let count := shape.fields.length
  .wrongLength length
    ("struct " ++ shape.name ++ " with " ++ toString count ++
      (if count = 1 then " element" else " elements"))

/-- Read the fields from a list, in order. -/
def setItems (shape : RecordShape δ α) (items : List Json) : Except Refusal δ := do
  let draft ← (shape.fields.zip items).foldlM
    (fun draft (name, value) => shape.set draft name value)
    shape.draft
  if items.length < shape.fields.length && !shape.hasDefaults then
    throw (shape.tooShort items.length)
  if items.length > shape.fields.length then
    throw (.wrongLength items.length "fewer elements in array")
  return draft

def decode (shape : RecordShape δ α) : Decoder α
  | .object members => do
      let draft ← members.foldlM (fun draft (name, value) => shape.set draft name value) shape.draft
      shape.finish draft
  | .list items => do
      let draft ← shape.setItems items
      shape.finish draft
  | other => .error (.wrongType other.describe ("struct " ++ shape.name))

end RecordShape

def require (name : String) : Option α → Except Refusal α
  | some value => .ok value
  | none => .error (.missingField name)

end PageInjection.Json
