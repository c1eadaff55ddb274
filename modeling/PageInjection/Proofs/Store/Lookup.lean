import PageInjection.Proofs.Entries
import PageInjection.Store.Database
import PageInjection.Store.Memory

/-!
# What is found after a change

Putting something under a key, or taking it out, changes what is found under
that key and nothing else.  The same holds of the slots of the store in memory.
-/

namespace PageInjection

section Entries

variable {Key Value : Type} [BEq Key] [LawfulBEq Key]

/-- What is found among the entries with a sort of keys. -/
theorem lookup_filter_keys (entries : List (Key × Value)) (keep : Key → Bool) (key : Key) :
    (entries.filter fun entry => keep entry.1).lookup key =
      if keep key then entries.lookup key else none := by
  induction entries with
  | nil => simp
  | cons entry rest ih =>
      obtain ⟨head, value⟩ := entry
      by_cases same : key = head
      · subst same
        cases kept : keep key with
        | false => simpa [kept] using ih
        | true => simp [kept]
      · rw [lookup_cons_of_ne same, ← ih]
        cases kept : keep head with
        | false => simp [kept]
        | true => simp [kept, lookup_cons_of_ne same]

private theorem lookup_filter_bne [DecidableEq Key] (entries : List (Key × Value))
    (removed key : Key) :
    (entries.filter (·.1 != removed)).lookup key =
      if key = removed then none else entries.lookup key := by
  rw [lookup_filter_keys entries (· != removed)]
  by_cases same : key = removed
  · simp [same]
  · simp [same]

end Entries

namespace Database

variable {key other : String} {bytes : List UInt8}

private theorem lookup_place_self {entries : List (String × List UInt8)}
    (absent : ∀ entry ∈ entries, entry.1 ≠ key) :
    (place key bytes entries).lookup key = some bytes := by
  induction entries with
  | nil => simp [place]
  | cons entry rest ih =>
      obtain ⟨head, old⟩ := entry
      rw [List.forall_mem_cons] at absent
      unfold place
      split
      · simp
      · rw [lookup_cons_of_ne absent.1.symm]
        exact ih absent.2

private theorem lookup_place_of_ne {entries : List (String × List UInt8)}
    (different : other ≠ key) :
    (place key bytes entries).lookup other = entries.lookup other := by
  induction entries with
  | nil => exact lookup_cons_of_ne different
  | cons entry rest ih =>
      obtain ⟨head, old⟩ := entry
      unfold place
      split
      · exact lookup_cons_of_ne different
      · rw [List.lookup_cons, List.lookup_cons, ih]

theorem get?_erase (database : Database) (key other : String) :
    (database.erase key).get? other = if other = key then none else database.get? other :=
  lookup_filter_bne database.entries key other

theorem get?_insert (database : Database) (key other : String) (bytes : List UInt8) :
    (database.insert key bytes).get? other =
      if other = key then some bytes else database.get? other := by
  by_cases same : other = key
  · subst same
    rw [if_pos rfl]
    apply lookup_place_self
    intro entry member
    simpa using (List.mem_filter.mp member).2
  · rw [if_neg same]
    calc
      (place key bytes (database.erase key).entries).lookup other =
          (database.erase key).get? other := lookup_place_of_ne same
      _ = database.get? other := by rw [get?_erase, if_neg same]

end Database

namespace MemoryStore

theorem content_set (store : MemoryStore) (slot other : Slot) (text : String) :
    (store.set slot text).content other = if other = slot then text else store.content other := by
  unfold set content
  by_cases unset : text = ""
  · by_cases same : other = slot
    · simp [unset, same, lookup_filter_bne]
    · simp [unset, same, lookup_filter_bne]
  · by_cases same : other = slot
    · simp [unset, same]
    · simp [unset, same, lookup_cons_of_ne, lookup_filter_bne]

end MemoryStore

end PageInjection
