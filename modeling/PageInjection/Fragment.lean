import PageInjection.Text.Numeral

/-!
# Fragments and their slots

A fragment is a piece of style, client script or server script text.  It lives
in a slot: its scope (every page, or one resource) together with its kind.
Empty content means that the slot is unset.
-/

namespace PageInjection

/-- The number of a page, post or other resource. -/
abbrev ResourceId := UInt64

/-- What a fragment holds, and so how it is emitted. -/
inductive FragmentKind where
  | style
  | clientScript
  | serverScript
deriving DecidableEq, Repr

namespace FragmentKind

/-- The name under which a kind is stored and shown. -/
def name : FragmentKind → String
  | .style => "style"
  | .clientScript => "client_script"
  | .serverScript => "server_script"

/-- Every word an operator may write for a kind. -/
def ofWord? (word : String) : Option FragmentKind :=
  if word = "style" ∨ word = "css" then some .style
  else if word = "client_script" ∨ word = "script" ∨ word = "js" then some .clientScript
  else if word = "server_script" ∨ word = "server" then some .serverScript
  else none

/-- The refusal of a word that names no kind. -/
def unknownWord (word : String) : String :=
  "Unknown fragment kind: " ++ word

def rank : FragmentKind → Nat
  | .style => 0
  | .clientScript => 1
  | .serverScript => 2

def ofRank? : Nat → Option FragmentKind
  | 0 => some .style
  | 1 => some .clientScript
  | 2 => some .serverScript
  | _ => none

@[simp] theorem ofRank?_rank (kind : FragmentKind) : ofRank? kind.rank = some kind := by
  cases kind <;> rfl

@[simp] theorem ofWord?_name (kind : FragmentKind) : ofWord? kind.name = some kind := by
  cases kind <;> decide

end FragmentKind

/-- Where a fragment applies. -/
inductive Scope where
  | global
  | resource (id : ResourceId)
deriving DecidableEq, Repr

namespace Scope

def name : Scope → String
  | .global => "global"
  | .resource id => "resource:" ++ String.ofList (Text.decimal id.toNat)

/-- Global first, then resources by number. -/
def lt : Scope → Scope → Bool
  | .global, .resource _ => true
  | .resource left, .resource right => left < right
  | _, .global => false

end Scope

/-- The place of one fragment. -/
structure Slot where
  scope : Scope
  kind : FragmentKind
deriving DecidableEq, Repr

namespace Slot

/-- By scope, then by kind. -/
def lt (left right : Slot) : Bool :=
  left.scope.lt right.scope ||
    (left.scope == right.scope && left.kind.rank < right.kind.rank)

/-- Put a slot in its place in a sorted list, unless it is there already. -/
def insertSorted (slot : Slot) : List Slot → List Slot
  | [] => [slot]
  | head :: tail =>
      if slot = head then head :: tail
      else if slot.lt head then slot :: head :: tail
      else head :: insertSorted slot tail

/-- The slots in order, each once. -/
def sorted (slots : List Slot) : List Slot :=
  slots.foldl (fun done slot => insertSorted slot done) []

end Slot

/-- The text in a slot. -/
structure Fragment where
  kind : FragmentKind
  scope : Scope
  content : String
deriving DecidableEq, Repr

namespace Fragment

def unset (slot : Slot) : Fragment :=
  ⟨slot.kind, slot.scope, ""⟩

def isEmpty (fragment : Fragment) : Bool :=
  fragment.content.isEmpty

def slot (fragment : Fragment) : Slot :=
  ⟨fragment.scope, fragment.kind⟩

end Fragment

/-- A fragment with the time of its last write, in milliseconds since 1970. -/
structure StoredFragment where
  fragment : Fragment
  updatedAt : Int64
deriving DecidableEq, Repr

end PageInjection
