import PageInjection.Fault
import PageInjection.Fragment

/-!
# Reading a store

What injection reads from a store: the rule text, the global fragment of a kind
and the script of a resource.  An unset slot is empty content and no failure.
`failing` is the same store with some of its reads out of order.
-/

namespace PageInjection

/-- The reads a store answers. -/
structure FragmentSource where
  rules : Except StoreFault String
  global : FragmentKind → Except StoreFault Fragment
  resource : ResourceId → Except StoreFault Fragment

/-- One sort of read. -/
inductive StoreRead where
  | rules
  | global (kind : FragmentKind)
  | resource
deriving DecidableEq, Repr

/-- The source in which some reads answer a fault. -/
def FragmentSource.failing (source : FragmentSource) (reads : List StoreRead)
    (fault : StoreFault) : FragmentSource where
  rules := if .rules ∈ reads then .error fault else source.rules
  global kind := if .global kind ∈ reads then .error fault else source.global kind
  resource id := if .resource ∈ reads then .error fault else source.resource id

/-- A change to a store, or an act that changes nothing a reader can see. -/
inductive StoreWrite where
  | setRules (text : String)
  | setGlobal (kind : FragmentKind) (content : String)
  | setResource (id : ResourceId) (content : String)
  | clearGlobal (kind : FragmentKind)
  | clearResource (id : ResourceId)
  | flush
  | reopen
deriving DecidableEq, Repr

end PageInjection
