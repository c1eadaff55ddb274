import PageInjection.Text.Numeral

/-!
# Layers of settings

Settings come from several sources, each a layer: values under keys.  Later
layers are laid over earlier ones.  Tables are merged name by name; every other
value replaces what was there.
-/

namespace PageInjection

/-- A single value of a layer. -/
inductive SettingScalar where
  | nothing
  | flag (value : Bool)
  | whole (value : Int)
  | real (value : Float)
  | text (value : String)

/-- A value of a layer, and where it comes from.  A table that was merged comes
from nowhere in particular. -/
inductive Setting where
  | scalar (origin : Option String) (value : SettingScalar)
  | list (origin : Option String) (items : List Setting)
  | table (members : List (String × Setting))
deriving Inhabited

/-- The values of one source, under their keys.  All names in it are in lower
case. -/
abbrev SettingLayer := List (String × Setting)

namespace Setting

def nothing : Setting := .scalar none .nothing

/-- The members of a table; other values have none. -/
def members : Setting → List (String × Setting)
  | .table members => members
  | _ => []

/-- The items of a list; other values have none. -/
def items : Setting → List Setting
  | .list _ items => items
  | _ => []

def listOrigin : Setting → Option String
  | .list origin _ => origin
  | _ => none

/-- Give a name of a table a value in terms of its old one. -/
def alter (name : String) (change : Option Setting → Setting) :
    List (String × Setting) → List (String × Setting)
  | [] => [(name, change none)]
  | (head, old) :: tail =>
      if head = name then (head, change (some old)) :: tail
      else (head, old) :: alter name change tail

mutual

def onTop (value : Setting) (old : Option Setting) : Setting :=
  match value with
  | .table [] => old.getD (.table [])
  | .table members => .table (onTopMembers members ((old.getD (.table [])).members))
  | other => other

def onTopMembers : List (String × Setting) → List (String × Setting) → List (String × Setting)
  | [], members => members
  | (name, value) :: more, members =>
      onTopMembers more (alter name (fun old => onTop value old) members)

end

/-- Put an item into a list; what is missing before it is filled up. -/
def putItem (position : Nat) (change : Setting → Setting) (items : List Setting) : List Setting :=
  let filled := items ++ List.replicate (position + 1 - items.length) nothing
  filled.modify position change

end Setting

/-- A step of a key from a value to one of its parts. -/
inductive KeyStep where
  | name (name : String)
  | item (position : Int)
deriving DecidableEq, Repr

/-- A key: a name, and the steps that follow it. -/
structure SettingKey where
  first : String
  steps : List KeyStep := []
deriving DecidableEq, Repr

namespace SettingKey

def isNameChar (c : Char) : Bool :=
  c.isAlphanum || c == ' ' || c == '_' || c == '-'

/-- The number of an item, up to its closing bracket. -/
def takeItem? (source : List Char) : Option (Int × List Char) :=
  let (sign, digits) : Int × List Char := match source with
    | '-' :: rest => (-1, rest)
    | rest => (1, rest)
  let (digits, rest) := digits.span Char.isDigit
  match Text.readNatural 0x7FFFFFFFFFFFFFFF digits, rest with
  | .ok size, ']' :: rest => if digits.isEmpty then none else some (sign * size, rest)
  | _, _ => none

def readSteps? : (fuel : Nat) → List Char → Option (List KeyStep)
  | _, [] => some []
  | 0, _ => none
  | fuel + 1, '.' :: rest => do
      let (name, rest) := rest.span isNameChar
      if name.isEmpty then none
      else return .name (String.ofList name) :: (← readSteps? fuel rest)
  | fuel + 1, '[' :: rest => do
      let (position, rest) ← takeItem? rest
      return .item position :: (← readSteps? fuel rest)
  | _ + 1, _ => none

/-- Read a key such as `store.path` or `list[2]`. -/
def read? (text : String) : Option SettingKey := do
  let (first, rest) := text.toList.span isNameChar
  if first.isEmpty then none
  else return ⟨String.ofList first, ← readSteps? rest.length rest⟩

/-- Read a key; a text that is no key is a name as a whole. -/
def ofText (text : String) : SettingKey :=
  (read? text).getD ⟨text, []⟩

/-- The place an item number means in a list of some length; numbers below zero
count from the end. -/
def placeOf (length : Nat) (position : Int) : Nat :=
  if position ≥ 0 then position.toNat else length - position.natAbs

/-- Lay a value over the part of an old value that the steps lead to. -/
def lay (value : Setting) : (steps : List KeyStep) → (old : Option Setting) → Setting
  | [], old => value.onTop old
  | .name name :: steps, old =>
      .table (Setting.alter name (lay value steps) (old.getD .nothing).members)
  | [.item position], old =>
      let items := (old.getD .nothing).items
      .list (old.getD .nothing).listOrigin
        (Setting.putItem (placeOf items.length position) (fun _ => value) items)
  | .item position :: steps, old =>
      let items := (old.getD .nothing).items
      .list (old.getD .nothing).listOrigin
        (Setting.putItem (placeOf items.length position) (fun item => lay value steps (some item))
          items)

end SettingKey

namespace SettingLayer

/-- Lay the values of a layer over a table, each under its key. -/
def onTop (layer : SettingLayer) (members : List (String × Setting)) : List (String × Setting) :=
  layer.foldl
    (fun members (key, value) =>
      let key := SettingKey.ofText key
      Setting.alter key.first (SettingKey.lay value key.steps) members)
    members

/-- All layers, each laid over those before it. -/
def merge (layers : List SettingLayer) : Setting :=
  .table (layers.foldl (fun members layer => layer.onTop members) [])

end SettingLayer

end PageInjection
