import PageInjection.Proofs.Store.Run

/-!
# Listing what a run has left

After any run the list of all records is the list of what the run has left: each
slot that is set once, the global slots first, each group in the order of the keys.
Looking up one slot finds its record in that list, and clearing a slot says whether
it was there.
-/

namespace PageInjection

/-- The keys of the records increase, in the lexicographic order of their bytes. -/
def InKeyOrder (records : List StoredFragment) : Prop :=
  records.Pairwise fun left right =>
    Text.encode left.fragment.slot.key.toList < Text.encode right.fragment.slot.key.toList

/-- The records are all that a run leaves, one for each slot, in the order of a
listing. -/
structure IsListing (run : List (Int64 × StoreWrite)) (records : List StoredFragment) :
    Prop where
  complete : ∀ record, record ∈ records ↔ Leaves run record
  once : (records.map (·.fragment.slot)).Nodup
  grouped : ∃ globals resources, records = globals ++ resources ∧
    (∀ record ∈ globals, record.fragment.scope = .global) ∧
    (∀ record ∈ resources, ∃ id, record.fragment.slot = ⟨.resource id, .serverScript⟩) ∧
    InKeyOrder globals ∧ InKeyOrder resources

section Groups

variable {globals resources : List StoredFragment}

theorem InKeyOrder.pairwise_slot_ne (ordered : InKeyOrder globals) :
    globals.Pairwise fun left right => left.fragment.slot ≠ right.fragment.slot := by
  apply ordered.imp
  intro left right before same
  rw [same] at before
  exact List.lt_irrefl _ before

/-- Inside a group the keys differ, across the groups the scopes do. -/
theorem nodup_slots_append (globalOrder : InKeyOrder globals)
    (resourceOrder : InKeyOrder resources)
    (areGlobal : ∀ record ∈ globals, record.fragment.scope = .global)
    (areNotGlobal : ∀ record ∈ resources, record.fragment.scope ≠ .global) :
    ((globals ++ resources).map (·.fragment.slot)).Nodup := by
  apply List.pairwise_map.mpr
  apply List.pairwise_append.mpr
  refine ⟨globalOrder.pairwise_slot_ne, resourceOrder.pairwise_slot_ne, ?_⟩
  intro left leftMember right rightMember same
  have scopes : left.fragment.scope = right.fragment.scope := congrArg Slot.scope same
  rw [areGlobal left leftMember] at scopes
  exact areNotGlobal right rightMember scopes.symm

end Groups

section Lists

variable {α β : Type}

private theorem exists_map_eq {property : α → Prop} {image : α → β} {items : List β}
    (each : ∀ item ∈ items, ∃ origin, property origin ∧ image origin = item) :
    ∃ origins : List α, origins.map image = items ∧ ∀ origin ∈ origins, property origin := by
  induction items with
  | nil => exact ⟨[], rfl, by simp⟩
  | cons item items ih =>
      rw [List.forall_mem_cons] at each
      obtain ⟨⟨origin, holds, rfl⟩, others⟩ := each
      obtain ⟨origins, rfl, hold⟩ := ih others
      exact ⟨origin :: origins, rfl, List.forall_mem_cons.mpr ⟨holds, hold⟩⟩

private theorem mapM_map_eq_ok {write : α → β} {read : β → Except StoreFault α} {values : List α}
    (back : ∀ value ∈ values, read (write value) = .ok value) :
    (values.map write).mapM read = .ok values := by
  induction values with
  | nil => rfl
  | cons value values ih =>
      rw [List.forall_mem_cons] at back
      rw [List.map_cons, List.mapM_cons, back.1, ih back.2]
      rfl

end Lists

namespace Database

/-- The entry that holds a record. -/
def entryOf (record : StoredFragment) : String × List UInt8 :=
  (record.fragment.slot.key, Record.putStored record)

theorem mapM_entryOf_eq_ok {records : List StoredFragment}
    (storable : ∀ record ∈ records, Record.IsStorable record.fragment.content) :
    ((records.map entryOf).mapM fun (_, bytes) => decoded (Record.readStored bytes)) =
      .ok records := by
  apply mapM_map_eq_ok
  intro record member
  have back := Record.stored_isExact.undoes record [] (storable record member)
  rwa [List.append_nil] at back

theorem mem_scan_iff {database : Database} {lead : String} {entry : String × List UInt8} :
    entry ∈ database.scan lead ↔ entry ∈ database.entries ∧ lead.toList <+: entry.1.toList := by
  rw [← Text.isSome_dropLead?_iff]
  exact List.mem_filter

namespace Keeps

variable {database : Database} {run : List (Int64 × StoreWrite)} {record : StoredFragment}
  {slot : Slot}

theorem leaves_of_found {bytes : List UInt8} (keeps : Keeps database run)
    (found : database.get? slot.key = some bytes) :
    ∃ record, Leaves run record ∧ record.fragment.slot = slot ∧
      Record.putStored record = bytes := by
  have underSlot := (keeps.only slot.key bytes found).resolve_left slot.key_ne_rulesKey
  obtain ⟨record, leaves, sameKey, stored⟩ := underSlot
  exact ⟨record, leaves, Slot.key_inj.mp sameKey, stored⟩

section Records

variable (keeps : Keeps database run) (storable : ∀ step ∈ run, step.2.IsStorable)
include keeps storable

theorem record_of_leaves (leaves : Leaves run record) :
    database.record record.fragment.slot = .ok (some record) :=
  record_of_stored (leaves.isStorable storable) (keeps.found record leaves)

theorem eq_of_leaves {other : StoredFragment} (leaves : Leaves run record)
    (otherLeaves : Leaves run other) (same : record.fragment.slot = other.fragment.slot) :
    record = other := by
  have found := keeps.record_of_leaves storable leaves
  have otherFound := keeps.record_of_leaves storable otherLeaves
  rw [same, otherFound] at found
  exact (Option.some.inj (Except.ok.inj found)).symm

/-- A slot is looked up without a fault, and nothing is found but what is left. -/
theorem record_cases (slot : Slot) :
    (database.record slot = .ok none ∧
        ∀ record, Leaves run record → record.fragment.slot ≠ slot) ∨
      ∃ record, database.record slot = .ok (some record) ∧ Leaves run record ∧
        record.fragment.slot = slot := by
  cases found : database.get? slot.key with
  | none =>
      refine .inl ⟨record_of_absent found, ?_⟩
      rintro record leaves rfl
      exact absurd (found.symm.trans (keeps.found record leaves)) (by simp)
  | some bytes =>
      obtain ⟨record, leaves, rfl, _⟩ := keeps.leaves_of_found found
      exact .inr ⟨record, keeps.record_of_leaves storable leaves, leaves, rfl⟩

theorem record_eq_some_iff :
    database.record slot = .ok (some record) ↔
      Leaves run record ∧ record.fragment.slot = slot := by
  constructor
  · intro found
    rcases keeps.record_cases storable slot with ⟨none, _⟩ | ⟨other, some, leaves, same⟩
    · rw [none] at found
      cases found
    · rw [some] at found
      obtain rfl := Option.some.inj (Except.ok.inj found)
      exact ⟨leaves, same⟩
  · rintro ⟨leaves, rfl⟩
    exact keeps.record_of_leaves storable leaves

theorem record_eq_none_iff :
    database.record slot = .ok none ↔
      ∀ record, Leaves run record → record.fragment.slot ≠ slot := by
  rcases keeps.record_cases storable slot with ⟨none, absent⟩ | ⟨record, some, leaves, same⟩
  · exact iff_of_true none absent
  · refine iff_of_false ?_ fun absent => absent record leaves same
    rw [some]
    exact nofun

/-! ## Scanning -/

/-- The entries with a lead hold the records with that lead, if it is not one of
the rules' key. -/
theorem exists_scan_eq (lead : String) (notRules : ¬ lead.toList <+: rulesKey.toList) :
    ∃ records : List StoredFragment, records.map entryOf = database.scan lead ∧
      ∀ record, record ∈ records ↔
        Leaves run record ∧ lead.toList <+: record.fragment.slot.key.toList := by
  have each : ∀ entry ∈ database.scan lead, ∃ record,
      Leaves run record ∧ entryOf record = entry := by
    rintro ⟨key, bytes⟩ member
    obtain ⟨present, leads⟩ := mem_scan_iff.mp member
    have found := keeps.sorted.mem_entries_iff.mp present
    rcases keeps.only key bytes found with rfl | ⟨record, leaves, rfl, rfl⟩
    · exact absurd leads notRules
    · exact ⟨record, leaves, rfl⟩
  obtain ⟨records, scanned, left⟩ := exists_map_eq each
  refine ⟨records, scanned, ?_⟩
  intro record
  constructor
  · intro member
    have inScan : entryOf record ∈ database.scan lead :=
      scanned ▸ List.mem_map_of_mem member
    exact ⟨left record member, (mem_scan_iff.mp inScan).2⟩
  · rintro ⟨leaves, leads⟩
    have present := keeps.sorted.mem_entries_iff.mpr (keeps.found record leaves)
    have inScan : entryOf record ∈ records.map entryOf :=
      scanned ▸ mem_scan_iff.mpr ⟨present, leads⟩
    obtain ⟨other, member, same⟩ := List.mem_map.mp inScan
    have sameSlot := Slot.key_inj.mp (congrArg Prod.fst same)
    exact keeps.eq_of_leaves storable (left other member) leaves sameSlot ▸ member

omit storable in
theorem inKeyOrder_of_scan {lead : String} {records : List StoredFragment}
    (scanned : records.map entryOf = database.scan lead) : InKeyOrder records := by
  have ordered : IsOrdered (database.scan lead) := List.Pairwise.filter _ keeps.sorted
  rw [← scanned] at ordered
  exact (List.pairwise_map.mp ordered).imp Text.byteLt_iff.mp

theorem exists_list_eq : ∃ records, database.list = .ok records ∧ IsListing run records := by
  obtain ⟨globals, globalScan, mem_globals⟩ :=
    keeps.exists_scan_eq storable globalLead (by decide)
  obtain ⟨resources, resourceScan, mem_resources⟩ :=
    keeps.exists_scan_eq storable resourceLead (by decide)
  have complete : ∀ record, record ∈ globals ++ resources ↔ Leaves run record := by
    intro record
    rw [List.mem_append, mem_globals, mem_resources, ← and_or_left,
      Slot.globalLead_prefix_key_iff, Slot.resourceLead_prefix_key_iff]
    exact and_iff_left (Classical.em _)
  have areGlobal : ∀ record ∈ globals, record.fragment.scope = .global := fun record member =>
    Slot.globalLead_prefix_key_iff.mp ((mem_globals record).mp member).2
  have areNotGlobal : ∀ record ∈ resources, record.fragment.scope ≠ .global :=
    fun record member => Slot.resourceLead_prefix_key_iff.mp ((mem_resources record).mp member).2
  have areResources : ∀ record ∈ resources,
      ∃ id, record.fragment.slot = ⟨.resource id, .serverScript⟩ := by
    intro record member
    exact ((mem_resources record).mp member).1.slot_cases.resolve_left (areNotGlobal record member)
  have globalOrder := keeps.inKeyOrder_of_scan globalScan
  have resourceOrder := keeps.inKeyOrder_of_scan resourceScan
  refine ⟨globals ++ resources, ?_, complete, ?_, globals, resources, rfl, areGlobal,
    areResources, globalOrder, resourceOrder⟩
  · unfold list
    rw [← globalScan, ← resourceScan, ← List.map_append]
    exact mapM_entryOf_eq_ok fun record member =>
      ((complete record).mp member).isStorable storable
  · exact nodup_slots_append globalOrder resourceOrder areGlobal areNotGlobal

end Records

/-- Clearing a slot tells whether the run had left something there. -/
theorem clear_eq_true_iff (keeps : Keeps database run) (slot : Slot) :
    (database.clear slot).1 = true ↔
      ∃ record, Leaves run record ∧ record.fragment.slot = slot := by
  constructor
  · intro present
    obtain ⟨bytes, found⟩ := Option.isSome_iff_exists.mp present
    obtain ⟨record, leaves, same, _⟩ := keeps.leaves_of_found found
    exact ⟨record, leaves, same⟩
  · rintro ⟨record, leaves, rfl⟩
    exact Option.isSome_iff_exists.mpr ⟨_, keeps.found record leaves⟩

end Keeps

theorem clear_clear_eq_false (database : Database) (slot : Slot) :
    ((database.clear slot).2.clear slot).1 = false := by
  have absent := database.get?_clear slot slot.key
  rw [if_pos rfl] at absent
  unfold clear at absent ⊢
  rw [absent]
  rfl

/-- Every run leaves a database whose list is the listing of what the run has left.
A slot is looked up as in that list, and is cleared with the word that something was
there exactly when it is in the list, and never twice in a row. -/
theorem list_after_isListing (run : List (Int64 × StoreWrite))
    (storable : ∀ step ∈ run, step.2.IsStorable) :
    ∃ records, (after run).list = .ok records ∧ IsListing run records ∧
      (∀ slot record, (after run).record slot = .ok (some record) ↔
        record ∈ records ∧ record.fragment.slot = slot) ∧
      (∀ slot, (after run).record slot = .ok none ↔
        ∀ record ∈ records, record.fragment.slot ≠ slot) ∧
      (∀ kind, ((after run).clearGlobal kind).1 = true ↔
        ∃ record ∈ records, record.fragment.slot = ⟨.global, kind⟩) ∧
      (∀ kind, (((after run).clearGlobal kind).2.clearGlobal kind).1 = false) ∧
      (∀ id, ((after run).clearResource id).1 = true ↔
        ∃ record ∈ records, record.fragment.slot = ⟨.resource id, .serverScript⟩) ∧
      ∀ id, (((after run).clearResource id).2.clearResource id).1 = false := by
  have keeps := keeps_after run
  obtain ⟨records, listed, listing⟩ := keeps.exists_list_eq storable
  refine ⟨records, listed, listing, ?_, ?_, ?_, ?_, ?_, ?_⟩
  · intro slot record
    rw [listing.complete]
    exact keeps.record_eq_some_iff storable
  · intro slot
    simp only [listing.complete]
    exact keeps.record_eq_none_iff storable
  · intro kind
    simp only [listing.complete]
    exact keeps.clear_eq_true_iff ⟨.global, kind⟩
  · exact fun kind => clear_clear_eq_false _ ⟨.global, kind⟩
  · intro id
    simp only [listing.complete]
    exact keeps.clear_eq_true_iff ⟨.resource id, .serverScript⟩
  · exact fun id => clear_clear_eq_false _ ⟨.resource id, .serverScript⟩

/-- Two styles, one over the other, and three scripts, one of them cleared: the
script of page 10 is listed before that of page 1, as `0` is before the colon. -/
theorem list_after_overwriting_and_clearing :
    let run : List (Int64 × StoreWrite) :=
      [(1, .setResource 1 "echo(1);"), (2, .setGlobal .style "a{}"), (3, .setRules "all"),
        (4, .setResource 2 "echo(2);"), (5, .reopen), (6, .setResource 10 "echo(10);"),
        (7, .setGlobal .style "b{}"), (8, .clearResource 2), (9, .setGlobal .clientScript "")]
    let records : List StoredFragment :=
      [⟨⟨.style, .global, "b{}"⟩, 7⟩, ⟨⟨.serverScript, .resource 10, "echo(10);"⟩, 6⟩,
        ⟨⟨.serverScript, .resource 1, "echo(1);"⟩, 1⟩]
    (∀ step ∈ run, step.2.IsStorable) ∧ (after run).list = .ok records ∧
      IsListing run records := by
  intro run records
  have storable : ∀ step ∈ run, step.2.IsStorable := by decide
  obtain ⟨listed, found, listing, _⟩ := list_after_isListing run storable
  have evaluated : (after run).list = .ok records := by rfl
  obtain rfl := Except.ok.inj (found.symm.trans evaluated)
  exact ⟨storable, found, listing⟩

end Database

end PageInjection
