import PageInjection.Proofs.Record.Codec
import PageInjection.Proofs.Store.Key
import PageInjection.Proofs.Store.Lookup

/-!
# Reading slots after a write

Each write to the database changes the answer of one slot, or of the rule text,
and leaves all other answers as they were.
-/

namespace PageInjection

namespace Fragment

theorem unset_slot {fragment : Fragment} (unset : fragment.isEmpty = true) :
    .unset fragment.slot = fragment := by
  obtain ⟨kind, scope, content⟩ := fragment
  have noText : content = "" := String.isEmpty_iff.mp unset
  rw [noText]
  rfl

end Fragment

namespace Database

section Reads

variable {database changed : Database} {slot : Slot}

/-- A read looks at nothing but the bytes under the key of its slot. -/
theorem read_congr (same : changed.get? slot.key = database.get? slot.key) :
    changed.read slot = database.read slot := by
  unfold read record
  rw [same]

theorem rules_congr (same : changed.get? rulesKey = database.get? rulesKey) :
    changed.rules = database.rules := by
  unfold rules
  rw [same]

theorem record_of_absent (absent : database.get? slot.key = none) :
    database.record slot = .ok none := by
  unfold record
  rw [absent]

theorem record_of_stored {stored : StoredFragment}
    (storable : Record.IsStorable stored.fragment.content)
    (found : database.get? slot.key = some (Record.putStored stored)) :
    database.record slot = .ok (some stored) := by
  have back := Record.stored_isExact.undoes stored [] storable
  rw [List.append_nil] at back
  unfold record
  rw [found]
  simp only [back]
  rfl

theorem read_of_absent (absent : database.get? slot.key = none) :
    database.read slot = .ok (.unset slot) := by
  unfold read
  rw [record_of_absent absent]
  rfl

theorem rules_of_absent (absent : database.get? rulesKey = none) : database.rules = .ok "" := by
  unfold rules
  rw [absent]

theorem rules_of_found {bytes : List UInt8} (found : database.get? rulesKey = some bytes) :
    database.rules = decoded (Record.readText bytes) := by
  unfold rules
  rw [found]

theorem rules_of_stored {text : String} (storable : Record.IsStorable text)
    (found : database.get? rulesKey = some (Record.putText text)) :
    database.rules = .ok text := by
  have back := Record.text_isExact.undoes text [] storable
  rw [List.append_nil] at back
  rw [rules_of_found found]
  exact back

end Reads

variable (database : Database)

theorem read_empty (slot : Slot) : empty.read slot = .ok (.unset slot) :=
  read_of_absent rfl

theorem rules_empty : empty.rules = .ok "" :=
  rules_of_absent rfl

/-! ## What stands under a key after a write -/

theorem get?_put (now : Int64) (fragment : Fragment) (key : String) :
    (database.put now fragment).get? key =
      if key = fragment.slot.key then
        if fragment.isEmpty then none else some (Record.putStored ⟨fragment, now⟩)
      else database.get? key := by
  unfold put
  by_cases unset : fragment.isEmpty = true
  · rw [if_pos unset, if_pos unset, get?_erase]
  · rw [if_neg unset, if_neg unset, get?_insert]

theorem get?_setRules (text key : String) :
    (database.setRules text).get? key =
      if key = rulesKey then if text.isEmpty then none else some (Record.putText text)
      else database.get? key := by
  unfold setRules
  by_cases unset : text.isEmpty = true
  · rw [if_pos unset, if_pos unset, get?_erase]
  · rw [if_neg unset, if_neg unset, get?_insert]

theorem get?_clear (slot : Slot) (key : String) :
    (database.clear slot).2.get? key = if key = slot.key then none else database.get? key :=
  get?_erase database slot.key key

/-! ## What is read after a write -/

/-- The record of a slot that was just written is there and can be read. -/
theorem record_put (now : Int64) (fragment : Fragment)
    (storable : Record.IsStorable fragment.content) :
    (database.put now fragment).record fragment.slot =
      .ok (if fragment.isEmpty then none else some ⟨fragment, now⟩) := by
  have found := database.get?_put now fragment fragment.slot.key
  rw [if_pos rfl] at found
  by_cases unset : fragment.isEmpty = true
  · rw [if_pos unset] at found ⊢
    exact record_of_absent found
  · rw [if_neg unset] at found ⊢
    exact record_of_stored storable found

theorem read_put (now : Int64) (fragment : Fragment)
    (storable : Record.IsStorable fragment.content) (slot : Slot) :
    (database.put now fragment).read slot =
      if slot = fragment.slot then .ok fragment else database.read slot := by
  by_cases same : slot = fragment.slot
  · subst same
    rw [if_pos rfl, read, record_put database now fragment storable]
    by_cases unset : fragment.isEmpty = true
    · rw [if_pos unset]
      exact congrArg Except.ok (Fragment.unset_slot unset)
    · rw [if_neg unset]
      rfl
  · have otherKey : slot.key ≠ fragment.slot.key := fun key => same (Slot.key_inj.mp key)
    rw [if_neg same]
    exact read_congr (by rw [get?_put, if_neg otherKey])

theorem rules_put (now : Int64) (fragment : Fragment) :
    (database.put now fragment).rules = database.rules :=
  rules_congr (by rw [get?_put, if_neg (Slot.key_ne_rulesKey fragment.slot).symm])

theorem read_setRules (text : String) (slot : Slot) :
    (database.setRules text).read slot = database.read slot :=
  read_congr (by rw [get?_setRules, if_neg (Slot.key_ne_rulesKey slot)])

theorem rules_setRules {text : String} (storable : Record.IsStorable text) :
    (database.setRules text).rules = .ok text := by
  have found := database.get?_setRules text rulesKey
  rw [if_pos rfl] at found
  by_cases unset : text.isEmpty = true
  · rw [if_pos unset] at found
    rw [rules_of_absent found, String.isEmpty_iff.mp unset]
  · rw [if_neg unset] at found
    exact rules_of_stored storable found

theorem read_clear (cleared slot : Slot) :
    (database.clear cleared).2.read slot =
      if slot = cleared then .ok (.unset slot) else database.read slot := by
  by_cases same : slot = cleared
  · subst same
    rw [if_pos rfl]
    exact read_of_absent (by rw [get?_clear, if_pos rfl])
  · have otherKey : slot.key ≠ cleared.key := fun key => same (Slot.key_inj.mp key)
    rw [if_neg same]
    exact read_congr (by rw [get?_clear, if_neg otherKey])

theorem rules_clear (cleared : Slot) : (database.clear cleared).2.rules = database.rules :=
  rules_congr (by rw [get?_clear, if_neg (Slot.key_ne_rulesKey cleared).symm])

end Database

namespace MemoryStore

theorem get_set (store : MemoryStore) (written slot : Slot) (text : String) :
    (store.set written text).get slot =
      if slot = written then ⟨written.kind, written.scope, text⟩ else store.get slot := by
  unfold get
  rw [content_set]
  by_cases same : slot = written
  · subst same
    rw [if_pos rfl, if_pos rfl]
  · rw [if_neg same, if_neg same]

end MemoryStore

end PageInjection
