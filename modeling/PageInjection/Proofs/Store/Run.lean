import PageInjection.Proofs.Store.Backends
import PageInjection.Proofs.Store.Order

/-!
# What a run of changes leaves

A run is a sequence of changes, each at its time, that begins with the empty
database.  It leaves a record in every slot whose last write was not empty.  The
database after the run holds these records under the keys of their slots and, but
for the rule text, nothing else.
-/

namespace PageInjection

namespace StoreWrite

/-- The slot that a change writes to, with the content it puts there; to clear a
slot is to write nothing there. -/
def written? : StoreWrite → Option (Slot × String)
  | .setGlobal kind content => some (⟨.global, kind⟩, content)
  | .setResource id content => some (⟨.resource id, .serverScript⟩, content)
  | .clearGlobal kind => some (⟨.global, kind⟩, "")
  | .clearResource id => some (⟨.resource id, .serverScript⟩, "")
  | .setRules _ => none
  | .flush => none
  | .reopen => none

variable {change : StoreWrite} {slot : Slot} {content : String}

/-- The four changes that write to a slot. -/
theorem written_cases (written : change.written? = some (slot, content)) :
    (∃ kind, change = .setGlobal kind content ∧ slot = ⟨.global, kind⟩) ∨
      (∃ id, change = .setResource id content ∧ slot = ⟨.resource id, .serverScript⟩) ∨
      (∃ kind, change = .clearGlobal kind ∧ slot = ⟨.global, kind⟩ ∧ content = "") ∨
      ∃ id, change = .clearResource id ∧ slot = ⟨.resource id, .serverScript⟩ ∧ content = "" := by
  cases change with
  | setGlobal kind text =>
      obtain ⟨rfl, rfl⟩ := Prod.mk.inj (Option.some.inj written)
      exact .inl ⟨kind, rfl, rfl⟩
  | setResource id text =>
      obtain ⟨rfl, rfl⟩ := Prod.mk.inj (Option.some.inj written)
      exact .inr (.inl ⟨id, rfl, rfl⟩)
  | clearGlobal kind =>
      obtain ⟨rfl, rfl⟩ := Prod.mk.inj (Option.some.inj written)
      exact .inr (.inr (.inl ⟨kind, rfl, rfl, rfl⟩))
  | clearResource id =>
      obtain ⟨rfl, rfl⟩ := Prod.mk.inj (Option.some.inj written)
      exact .inr (.inr (.inr ⟨id, rfl, rfl, rfl⟩))
  | setRules text => cases written
  | flush => cases written
  | reopen => cases written

theorem isStorable_of_written (storable : change.IsStorable)
    (written : change.written? = some (slot, content)) : Record.IsStorable content := by
  rcases written_cases written with
    ⟨kind, rfl, _⟩ | ⟨id, rfl, _⟩ | ⟨kind, _, _, rfl⟩ | ⟨id, _, _, rfl⟩
  · exact storable
  · exact storable
  · decide
  · decide

/-- Only global slots and the script slots of resources are ever written to. -/
theorem slot_cases (written : change.written? = some (slot, content)) :
    slot.scope = .global ∨ ∃ id, slot = ⟨.resource id, .serverScript⟩ := by
  rcases written_cases written with
    ⟨kind, _, rfl⟩ | ⟨id, _, rfl⟩ | ⟨kind, _, rfl, _⟩ | ⟨id, _, rfl, _⟩
  · exact .inl rfl
  · exact .inr ⟨id, rfl⟩
  · exact .inl rfl
  · exact .inr ⟨id, rfl⟩

end StoreWrite

/-- A run leaves a record: the last write to its slot put its content there at its
time, and the content is not empty. -/
structure Leaves (run : List (Int64 × StoreWrite)) (record : StoredFragment) : Prop where
  isSet : record.fragment.content ≠ ""
  last : ∃ before change after, run = before ++ (record.updatedAt, change) :: after ∧
    change.written? = some (record.fragment.slot, record.fragment.content) ∧
    ∀ later ∈ after, ∀ content, later.2.written? ≠ some (record.fragment.slot, content)

namespace Leaves

variable {run : List (Int64 × StoreWrite)} {now : Int64} {change : StoreWrite}
  {record : StoredFragment}

theorem not_nil : ¬ Leaves [] record := by
  intro leaves
  obtain ⟨before, change, after, split, _⟩ := leaves.last
  simp at split

/-- One more change leaves what it writes, and what was left in all other slots. -/
theorem append_singleton_iff :
    Leaves (run ++ [(now, change)]) record ↔
      (change.written? = some (record.fragment.slot, record.fragment.content) ∧
        record.updatedAt = now ∧ record.fragment.content ≠ "") ∨
      ((∀ content, change.written? ≠ some (record.fragment.slot, content)) ∧
        Leaves run record) := by
  constructor
  · -- the last write is the new change, or it stands in the run before it
    rintro ⟨isSet, before, last, after, split, written, untouched⟩
    rcases List.eq_nil_or_concat after with rfl | ⟨others, final, rfl⟩
    · obtain ⟨_, same⟩ := List.append_inj' split rfl
      obtain ⟨rfl, rfl⟩ := Prod.mk.inj (List.cons.inj same).1
      exact .inl ⟨written, rfl, isSet⟩
    · rw [List.concat_eq_append, ← List.cons_append, ← List.append_assoc] at split
      obtain ⟨rfl, same⟩ := List.append_inj' split rfl
      obtain rfl := (List.cons.inj same).1
      refine .inr ⟨untouched (now, change) (by simp), isSet, before, last, others, rfl,
        written, ?_⟩
      intro later member
      exact untouched later (by simp [member])
  · rintro (⟨written, rfl, isSet⟩ | ⟨other, leaves⟩)
    · exact ⟨isSet, run, change, [], rfl, written, by simp⟩
    · obtain ⟨before, last, after, rfl, written, untouched⟩ := leaves.last
      refine ⟨leaves.isSet, before, last, after ++ [(now, change)], by simp, written, ?_⟩
      intro later member
      rcases List.mem_append.mp member with earlier | final
      · exact untouched later earlier
      · rw [List.mem_singleton.mp final]
        exact other

theorem append_iff_of_not_written (notWritten : change.written? = none) :
    Leaves (run ++ [(now, change)]) record ↔ Leaves run record := by
  rw [append_singleton_iff, notWritten]
  simp

theorem append_iff_of_written {slot : Slot} {content : String}
    (written : change.written? = some (slot, content)) :
    Leaves (run ++ [(now, change)]) record ↔
      if record.fragment.slot = slot then
        content ≠ "" ∧ record = ⟨⟨slot.kind, slot.scope, content⟩, now⟩
      else Leaves run record := by
  rw [append_singleton_iff, written]
  by_cases same : record.fragment.slot = slot
  · rw [if_pos same]
    constructor
    · rintro (⟨here, rfl, isSet⟩ | ⟨other, _⟩)
      · obtain ⟨rfl, rfl⟩ := Prod.mk.inj (Option.some.inj here)
        exact ⟨isSet, rfl⟩
      · exact absurd (congrArg (fun slot => some (slot, content)) same.symm) (other content)
    · rintro ⟨isSet, rfl⟩
      exact .inl ⟨rfl, rfl, isSet⟩
  · rw [if_neg same]
    constructor
    · rintro (⟨here, _⟩ | ⟨_, leaves⟩)
      · exact absurd (Prod.mk.inj (Option.some.inj here)).1.symm same
      · exact leaves
    · intro leaves
      refine .inr ⟨?_, leaves⟩
      intro other here
      exact same (Prod.mk.inj (Option.some.inj here)).1.symm

theorem isStorable (leaves : Leaves run record)
    (storable : ∀ step ∈ run, step.2.IsStorable) :
    Record.IsStorable record.fragment.content := by
  obtain ⟨before, last, after, rfl, written, _⟩ := leaves.last
  exact StoreWrite.isStorable_of_written (storable (record.updatedAt, last) (by simp)) written

theorem slot_cases (leaves : Leaves run record) :
    record.fragment.scope = .global ∨
      ∃ id, record.fragment.slot = ⟨.resource id, .serverScript⟩ := by
  obtain ⟨before, last, after, _, written, _⟩ := leaves.last
  exact StoreWrite.slot_cases written

end Leaves

namespace Database

/-- The database after a run. -/
def after (run : List (Int64 × StoreWrite)) : Database :=
  run.foldl (fun database step => database.apply step.1 step.2) .empty

section Change

variable (database : Database) (now : Int64) {change : StoreWrite}

/-- To clear a slot is to put the empty text into it. -/
theorem apply_eq_put {slot : Slot} {content : String}
    (written : change.written? = some (slot, content)) :
    database.apply now change = database.put now ⟨slot.kind, slot.scope, content⟩ := by
  rcases StoreWrite.written_cases written with
    ⟨kind, rfl, rfl⟩ | ⟨id, rfl, rfl⟩ | ⟨kind, rfl, rfl, rfl⟩ | ⟨id, rfl, rfl, rfl⟩
  · rfl
  · rfl
  · rfl
  · rfl

theorem get?_apply_of_written {slot : Slot} {content : String}
    (written : change.written? = some (slot, content)) (key : String) :
    (database.apply now change).get? key =
      if key = slot.key then
        if content.isEmpty then none
        else some (Record.putStored ⟨⟨slot.kind, slot.scope, content⟩, now⟩)
      else database.get? key := by
  rw [apply_eq_put database now written]
  exact database.get?_put now ⟨slot.kind, slot.scope, content⟩ key

theorem get?_apply_of_not_written (notWritten : change.written? = none) {key : String}
    (other : key ≠ rulesKey) : (database.apply now change).get? key = database.get? key := by
  cases change with
  | setRules text => exact (database.get?_setRules text key).trans (if_neg other)
  | flush => rfl
  | reopen => rfl
  | setGlobal kind content => cases notWritten
  | setResource id content => cases notWritten
  | clearGlobal kind => cases notWritten
  | clearResource id => cases notWritten

end Change

/-- The database holds exactly what a run leaves: its entries are in order, every
record that is left stands under its key, and nothing else stands anywhere but under
the key of the rules. -/
structure Keeps (database : Database) (run : List (Int64 × StoreWrite)) : Prop where
  sorted : database.IsSorted
  found : ∀ record, Leaves run record →
    database.get? record.fragment.slot.key = some (Record.putStored record)
  only : ∀ key bytes, database.get? key = some bytes → key = rulesKey ∨
    ∃ record, Leaves run record ∧ record.fragment.slot.key = key ∧
      Record.putStored record = bytes

namespace Keeps

variable {database : Database} {run : List (Int64 × StoreWrite)}

theorem empty : Keeps .empty [] where
  sorted := .empty
  found _ leaves := absurd leaves Leaves.not_nil
  only key bytes found := by simp [get?, Database.empty] at found

theorem apply_of_not_written (keeps : Keeps database run) (now : Int64) {change : StoreWrite}
    (notWritten : change.written? = none) :
    Keeps (database.apply now change) (run ++ [(now, change)]) where
  sorted := keeps.sorted.apply now change
  found record leaves := by
    rw [database.get?_apply_of_not_written now notWritten (Slot.key_ne_rulesKey _)]
    exact keeps.found record ((Leaves.append_iff_of_not_written notWritten).mp leaves)
  only key bytes found := by
    by_cases rules : key = rulesKey
    · exact .inl rules
    · rw [database.get?_apply_of_not_written now notWritten rules] at found
      obtain ⟨record, leaves, same⟩ := (keeps.only key bytes found).resolve_left rules
      exact .inr ⟨record, (Leaves.append_iff_of_not_written notWritten).mpr leaves, same⟩

theorem apply_of_written (keeps : Keeps database run) (now : Int64) {change : StoreWrite}
    {slot : Slot} {content : String} (written : change.written? = some (slot, content)) :
    Keeps (database.apply now change) (run ++ [(now, change)]) where
  sorted := keeps.sorted.apply now change
  found record leaves := by
    rw [Leaves.append_iff_of_written written] at leaves
    rw [database.get?_apply_of_written now written]
    by_cases same : record.fragment.slot = slot
    · rw [if_pos same] at leaves
      obtain ⟨isSet, rfl⟩ := leaves
      rw [if_pos (congrArg Slot.key same), if_neg (by simpa using isSet)]
    · have different : record.fragment.slot.key ≠ slot.key := fun key =>
        same (Slot.key_inj.mp key)
      rw [if_neg same] at leaves
      rw [if_neg different]
      exact keeps.found record leaves
  only key bytes found := by
    rw [database.get?_apply_of_written now written] at found
    by_cases same : key = slot.key
    · rw [if_pos same] at found
      by_cases unset : content.isEmpty = true
      · rw [if_pos unset] at found
        cases found
      · rw [if_neg unset] at found
        have isSet : content ≠ "" := by simpa using unset
        have itsSlot : (Fragment.mk slot.kind slot.scope content).slot = slot := rfl
        refine .inr ⟨⟨⟨slot.kind, slot.scope, content⟩, now⟩, ?_, same.symm,
          Option.some.inj found⟩
        rw [Leaves.append_iff_of_written written, if_pos itsSlot]
        exact ⟨isSet, rfl⟩
    · rw [if_neg same] at found
      rcases keeps.only key bytes found with rules | ⟨record, leaves, rfl, stored⟩
      · exact .inl rules
      · have different : record.fragment.slot ≠ slot := fun slots => same (congrArg _ slots)
        refine .inr ⟨record, ?_, rfl, stored⟩
        rw [Leaves.append_iff_of_written written, if_neg different]
        exact leaves

theorem apply (keeps : Keeps database run) (now : Int64) (change : StoreWrite) :
    Keeps (database.apply now change) (run ++ [(now, change)]) := by
  cases written : change.written? with
  | none => exact keeps.apply_of_not_written now written
  | some target => exact keeps.apply_of_written now written

theorem foldl (keeps : Keeps database run) (more : List (Int64 × StoreWrite)) :
    Keeps (more.foldl (fun database step => database.apply step.1 step.2) database)
      (run ++ more) := by
  induction more generalizing database run with
  | nil => rwa [List.append_nil]
  | cons step more ih =>
      have later := ih (keeps.apply step.1 step.2)
      rwa [List.append_assoc] at later

end Keeps

theorem keeps_after (run : List (Int64 × StoreWrite)) : Keeps (after run) run :=
  Keeps.empty.foldl run

end Database

end PageInjection
