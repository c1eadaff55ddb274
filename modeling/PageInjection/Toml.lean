/-!
# TOML documents

A document is a table.  Headers and dotted names open tables inside it, and how
a table was opened decides what may still be added to it.  Every operation below
returns nothing when the document would define something twice.
-/

namespace PageInjection

/-- How a table was opened. -/
inductive TableStanding where
  /-- Written between braces; nothing can be added. -/
  | closed
  /-- Named by a header. -/
  | header
  /-- Only passed by a header on the way to another table. -/
  | passed
  /-- Opened by a dotted name. -/
  | dotted
deriving DecidableEq, Repr

/-- A value of a document.  Dates and times are kept as their texts; a list is
open when headers append tables to it. -/
inductive Toml where
  | text (value : String)
  | whole (value : Int)
  | real (value : Float)
  | flag (value : Bool)
  | moment (value : String)
  | list (isOpen : Bool) (items : List Toml)
  | table (standing : TableStanding) (members : List (String × Toml))
deriving Inhabited

namespace Toml

/-- The members of a table, in the order they were opened. -/
abbrev Members := List (String × Toml)

/-- Give a member that is there another value. -/
def replaceMember (name : String) (value : Toml) (members : Members) : Members :=
  members.map fun member => if member.1 = name then (name, value) else member

/-- Change a table below a path of headers; a list of tables is entered at its
last table. -/
def within : (path : List String) → (Members → Option Members) → Members → Option Members
  | [], change, members => change members
  | name :: path, change, members =>
      match members.lookup name with
      | none => do return members ++ [(name, .table .passed (← within path change []))]
      | some (.table .closed _) => none
      | some (.table standing inner) => do
          return replaceMember name (.table standing (← within path change inner)) members
      | some (.list true items) =>
          match items.getLast? with
          | some (.table standing inner) => do
              let last := Toml.table standing (← within path change inner)
              return replaceMember name (.list true (items.dropLast ++ [last])) members
          | _ => none
      | some _ => none

/-- Define a member under a dotted name of the current table. -/
def define (value : Toml) : (path : List String) → (name : String) → Members → Option Members
  | [], name, members =>
      if (members.lookup name).isSome then none else some (members ++ [(name, value)])
  | lead :: path, name, members =>
      match members.lookup lead with
      | none => do return members ++ [(lead, .table .dotted (← define value path name []))]
      | some (.table .dotted inner) => do
          return replaceMember lead (.table .dotted (← define value path name inner)) members
      | some (.table .passed inner) =>
          if path.isEmpty then none
          else do
            return replaceMember lead (.table .passed (← define value path name inner)) members
      | some (.list true items) =>
          match path.isEmpty, items.getLast? with
          | false, some (.table standing inner) => do
              let last := Toml.table standing (← define value path name inner)
              return replaceMember lead (.list true (items.dropLast ++ [last])) members
          | _, _ => none
      | some _ => none

def openTable (name : String) (members : Members) : Option Members :=
  match members.lookup name with
  | none => some (members ++ [(name, .table .header [])])
  | some (.table .passed inner) => some (replaceMember name (.table .header inner) members)
  | some _ => none

def openItem (name : String) (members : Members) : Option Members :=
  match members.lookup name with
  | none => some (members ++ [(name, .list true [.table .header []])])
  | some (.list true items) =>
      some (replaceMember name (.list true (items ++ [.table .header []])) members)
  | some _ => none

/-- The last name of a path and what leads to it. -/
def splitLast : (first : String) → (rest : List String) → List String × String
  | first, [] => ([], first)
  | first, next :: rest =>
      let (path, last) := splitLast next rest
      (first :: path, last)

end Toml

end PageInjection
