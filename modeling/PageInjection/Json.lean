import PageInjection.Decimal.Shortest
import PageInjection.Text.Utf8

/-!
# JSON values

Values as JSON has them, with whole numbers of 64 bits kept exact and all other
numbers as doubles.  Members of an object are kept in the order of their names'
bytes, each name once.
-/

namespace PageInjection

/-- A JSON value. -/
inductive Json where
  | null
  | bool (value : Bool)
  | integer (value : Int)
  | real (value : Float)
  | text (value : String)
  | list (items : List Json)
  | object (members : List (String × Json))
deriving Inhabited

namespace Json

/-- Put a member in its place; a later value for a name replaces an earlier
one. -/
def insertMember (name : String) (value : Json) : List (String × Json) → List (String × Json)
  | [] => [(name, value)]
  | (head, old) :: tail =>
      if name = head then (name, value) :: tail
      else if Text.byteLt name head then (name, value) :: (head, old) :: tail
      else (head, old) :: insertMember name value tail

def ofMembers (members : List (String × Json)) : Json :=
  .object (members.foldl (fun sorted (name, value) => insertMember name value sorted) [])

def member? (name : String) : Json → Option Json
  | .object members => members.lookup name
  | _ => none

/-- A text, or null. -/
def ofText? : Option String → Json
  | some value => .text value
  | none => .null

/-- An id, or null. -/
def ofId? : Option UInt64 → Json
  | some id => .integer id.toNat
  | none => .null

def ofTexts (texts : List String) : Json :=
  .list (texts.map .text)

/-- A double as JSON writes it: positional from `1e-5` to `1e16`. -/
def realText (value : Float) : String :=
  if value.isNaN || value.isInf then "null"
  else
    let sign := if value.toBits.toNat ≥ 0x8000000000000000 then "-" else ""
    if value == 0 then sign ++ "0.0"
    else
      let number := Decimal.shortest value.abs
      if -5 < number.point ∧ number.point ≤ 16 then sign ++ number.positional ".0"
      else sign ++ number.exponential "+"

end Json

end PageInjection
