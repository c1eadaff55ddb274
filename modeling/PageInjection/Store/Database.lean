import PageInjection.Record
import PageInjection.Store
import PageInjection.Text.Separated

/-!
# The database

Byte strings under keys, in the order of the keys' bytes.  A fragment is kept as
a record under the key of its slot, the rule text under a key of its own; the
absence of a key is an unset slot.  Any bytes may stand under a key, and those
that are no record are a fault when they are read.
-/

namespace PageInjection

/-- What stands before the key of a global fragment. -/
def globalLead : String := "global:"

/-- What stands before the key of a resource's script. -/
def resourceLead : String := "resource:"

def Slot.key (slot : Slot) : String :=
  match slot.scope with
  | .global => globalLead ++ slot.kind.name
  | .resource id =>
      resourceLead ++ String.ofList (Text.decimal id.toNat) ++ ":" ++ slot.kind.name

def rulesKey : String := "rules"

/-- Bytes under keys.  The keys are texts; databases with a key that is no UTF-8 are left
out, since no change writes one. -/
structure Database where
  entries : List (String × List UInt8) := []
deriving DecidableEq, Repr

namespace Database

def empty : Database := {}

def get? (database : Database) (key : String) : Option (List UInt8) :=
  database.entries.lookup key

def erase (database : Database) (key : String) : Database :=
  ⟨database.entries.filter (·.1 != key)⟩

/-- Put an entry in front of the first entry with a greater key. -/
def place (key : String) (bytes : List UInt8) :
    List (String × List UInt8) → List (String × List UInt8)
  | [] => [(key, bytes)]
  | (head, old) :: tail =>
      if Text.byteLt key head then (key, bytes) :: (head, old) :: tail
      else (head, old) :: place key bytes tail

def insert (database : Database) (key : String) (bytes : List UInt8) : Database :=
  ⟨place key bytes (database.erase key).entries⟩

/-- The entries whose keys start with a text. -/
def scan (database : Database) (lead : String) : List (String × List UInt8) :=
  database.entries.filter fun (key, _) => (Text.dropLead? lead.toList key.toList).isSome

/-- A fault of the record codec as a fault of the store. -/
def decoded (result : Except Record.Fault α) : Except StoreFault α :=
  match result with
  | .ok value => .ok value
  | .error fault => .error (.encoding fault.message)

/-- The record of a slot, when it is set. -/
def record (database : Database) (slot : Slot) : Except StoreFault (Option StoredFragment) :=
  match database.get? slot.key with
  | some bytes => (decoded (Record.readStored bytes)).map some
  | none => .ok none

def read (database : Database) (slot : Slot) : Except StoreFault Fragment :=
  (database.record slot).map fun
    | some stored => stored.fragment
    | none => .unset slot

def rules (database : Database) : Except StoreFault String :=
  match database.get? rulesKey with
  | some bytes => decoded (Record.readText bytes)
  | none => .ok ""

/-- All records, global ones first. -/
def list (database : Database) : Except StoreFault (List StoredFragment) :=
  (database.scan globalLead ++ database.scan resourceLead).mapM fun (_, bytes) =>
    decoded (Record.readStored bytes)

/-- Put a fragment into its slot at a time; empty content unsets the slot. -/
def put (database : Database) (now : Int64) (fragment : Fragment) : Database :=
  if fragment.isEmpty then database.erase fragment.slot.key
  else database.insert fragment.slot.key (Record.putStored ⟨fragment, now⟩)

def setGlobal (database : Database) (now : Int64) (kind : FragmentKind) (content : String) :
    Database :=
  database.put now ⟨kind, .global, content⟩

/-- Put the script of a resource into its slot. -/
def setResource (database : Database) (now : Int64) (id : ResourceId) (content : String) :
    Database :=
  database.put now ⟨.serverScript, .resource id, content⟩

/-- Replace the rule text; the empty text takes the key out. -/
def setRules (database : Database) (text : String) : Database :=
  if text.isEmpty then database.erase rulesKey
  else database.insert rulesKey (Record.putText text)

/-- Unset a slot, and say whether anything was there. -/
def clear (database : Database) (slot : Slot) : Bool × Database :=
  ((database.get? slot.key).isSome, database.erase slot.key)

def clearGlobal (database : Database) (kind : FragmentKind) : Bool × Database :=
  database.clear ⟨.global, kind⟩

def clearResource (database : Database) (id : ResourceId) : Bool × Database :=
  database.clear ⟨.resource id, .serverScript⟩

/-- Carry out a write; the content outlives closing. -/
def apply (database : Database) (now : Int64) : StoreWrite → Database
  | .setRules text => database.setRules text
  | .setGlobal kind content => database.setGlobal now kind content
  | .setResource id content => database.setResource now id content
  | .clearGlobal kind => (database.clearGlobal kind).2
  | .clearResource id => (database.clearResource id).2
  | .flush => database
  | .reopen => database

def source (database : Database) : FragmentSource where
  rules := database.rules
  global kind := database.read ⟨.global, kind⟩
  resource id := database.read ⟨.resource id, .serverScript⟩

end Database

end PageInjection
