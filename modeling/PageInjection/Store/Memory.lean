import PageInjection.Store

/-!
# The store in memory

A rule text and the contents of the slots that are set.  Writing empty content
unsets a slot.
-/

namespace PageInjection

/-- A store for hosts that hold their settings in memory. -/
structure MemoryStore where
  rules : String := ""
  contents : List (Slot × String) := []
deriving DecidableEq, Repr

namespace MemoryStore

def empty : MemoryStore := {}

def setRules (store : MemoryStore) (text : String) : MemoryStore :=
  { store with rules := text }

/-- Put content into a slot; empty content unsets it. -/
def set (store : MemoryStore) (slot : Slot) (content : String) : MemoryStore :=
  let others := store.contents.filter (·.1 != slot)
  { store with contents := if content.isEmpty then others else (slot, content) :: others }

def setGlobal (store : MemoryStore) (kind : FragmentKind) (content : String) : MemoryStore :=
  store.set ⟨.global, kind⟩ content

/-- Put the script of a resource into its slot. -/
def setResource (store : MemoryStore) (id : ResourceId) (content : String) : MemoryStore :=
  store.set ⟨.resource id, .serverScript⟩ content

/-- The content of a slot, empty when it is unset. -/
def content (store : MemoryStore) (slot : Slot) : String :=
  (store.contents.lookup slot).getD ""

def get (store : MemoryStore) (slot : Slot) : Fragment :=
  ⟨slot.kind, slot.scope, store.content slot⟩

/-- Carry out a write; clearing is writing the empty text. -/
def apply (store : MemoryStore) : StoreWrite → MemoryStore
  | .setRules text => store.setRules text
  | .setGlobal kind content => store.setGlobal kind content
  | .setResource id content => store.setResource id content
  | .clearGlobal kind => store.setGlobal kind ""
  | .clearResource id => store.setResource id ""
  | .flush => store
  | .reopen => store

/-- The reads of the store; none of them fails. -/
def source (store : MemoryStore) : FragmentSource where
  rules := .ok store.rules
  global kind := .ok (store.get ⟨.global, kind⟩)
  resource id := .ok (store.get ⟨.resource id, .serverScript⟩)

end MemoryStore

end PageInjection
