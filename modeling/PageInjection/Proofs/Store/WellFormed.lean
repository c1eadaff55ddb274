import PageInjection.Proofs.Items
import PageInjection.Proofs.Store.Listing

/-!
# Well-formed databases

Reading a slot trusts the label of the record that stands under its key.  It may: the
empty database is well-formed, every change keeps it so, and a well-formed database has
under each key what belongs there.  So after any run of changes no read and no list
fails, and every fragment that is read has the label of the slot that was asked for.
-/

namespace PageInjection

/-- Global slots can be set, and the script slots of resources. -/
def Slot.IsSettable (slot : Slot) : Prop :=
  slot.scope = .global ∨ slot.kind = .serverScript

namespace Database

/-- The bytes hold a record that is no unset fragment, with the label of a slot. -/
def HoldsRecord (slot : Slot) (bytes : List UInt8) : Prop :=
  ∃ record, Record.readStored bytes = .ok record ∧ record.fragment.slot = slot ∧
    record.fragment.content ≠ ""

/-- The bytes hold a text that is not empty. -/
def HoldsText (bytes : List UInt8) : Prop :=
  ∃ text, Record.readText bytes = .ok text ∧ text ≠ ""

/-- An entry that belongs into a database. -/
inductive Belongs : String × List UInt8 → Prop where
  | rules {bytes : List UInt8} : HoldsText bytes → Belongs (rulesKey, bytes)
  | record {slot : Slot} {bytes : List UInt8} : slot.IsSettable → HoldsRecord slot bytes →
      Belongs (slot.key, bytes)

/-- Each key stands once, and there is nothing but the rule text and, under the keys of
slots that can be set, records of these very slots. -/
structure IsWellFormed (database : Database) : Prop where
  sorted : database.IsSorted
  known : ∀ key bytes, (key, bytes) ∈ database.entries →
    key = rulesKey ∨ ∃ slot : Slot, slot.IsSettable ∧ key = slot.key
  labelled : ∀ (slot : Slot) bytes, (slot.key, bytes) ∈ database.entries → HoldsRecord slot bytes
  worded : ∀ bytes, (rulesKey, bytes) ∈ database.entries → HoldsText bytes

theorem isWellFormed_iff {database : Database} :
    database.IsWellFormed ↔ database.IsSorted ∧ ∀ entry ∈ database.entries, Belongs entry := by
  constructor
  · rintro ⟨sorted, known, labelled, worded⟩
    refine ⟨sorted, fun ⟨key, bytes⟩ member => ?_⟩
    rcases known key bytes member with rfl | ⟨slot, settable, rfl⟩
    · exact .rules (worded bytes member)
    · exact .record settable (labelled slot bytes member)
  · rintro ⟨sorted, belong⟩
    refine ⟨sorted, fun key bytes member => ?_, fun slot bytes member => ?_,
      fun bytes member => ?_⟩
    · cases belong _ member with
      | rules => exact .inl rfl
      | record settable => exact .inr ⟨_, settable, rfl⟩
    -- The keys of slots differ from each other and from that of the rules, so an entry can
    -- belong there for one reason only.
    · generalize entry : (slot.key, bytes) = found at member
      cases belong found member with
      | rules => exact absurd (congrArg Prod.fst entry) slot.key_ne_rulesKey
      | record _ holds =>
          obtain ⟨key, rfl⟩ := Prod.mk.inj entry
          exact Slot.key_inj.mp key ▸ holds
    · generalize entry : (rulesKey, bytes) = found at member
      cases belong found member with
      | rules holds => exact (Prod.mk.inj entry).2 ▸ holds
      | record => exact absurd (congrArg Prod.fst entry).symm (Slot.key_ne_rulesKey _)

section Entries

variable {now : Int64} {fragment : Fragment} {text : String}

theorem belongs_stored (settable : fragment.slot.IsSettable)
    (storable : Record.IsStorable fragment.content) (isSet : fragment.content ≠ "") :
    Belongs (fragment.slot.key, Record.putStored ⟨fragment, now⟩) := by
  have taken := Record.takeStored_eq_ok_iff.mpr
    ⟨storable, (List.append_nil (Record.putStored ⟨fragment, now⟩)).symm⟩
  refine .record settable ⟨⟨fragment, now⟩, ?_, rfl, isSet⟩
  rw [Record.readStored, taken]
  rfl

theorem belongs_text (storable : Record.IsStorable text) (isSet : text ≠ "") :
    Belongs (rulesKey, Record.putText text) := by
  have taken := Record.takeText_eq_ok_iff.mpr
    ⟨storable, (List.append_nil (Record.putText text)).symm⟩
  refine .rules ⟨text, ?_, isSet⟩
  rw [Record.readText, taken]
  rfl

end Entries

namespace IsWellFormed

variable {database : Database} {slot : Slot}

theorem empty : IsWellFormed .empty :=
  isWellFormed_iff.mpr ⟨.empty, by simp [Database.empty]⟩

theorem erase (formed : database.IsWellFormed) (key : String) :
    (database.erase key).IsWellFormed := by
  obtain ⟨sorted, belong⟩ := isWellFormed_iff.mp formed
  exact isWellFormed_iff.mpr ⟨sorted.erase key,
    fun entry member => belong entry (List.mem_filter.mp member).1⟩

theorem insert (formed : database.IsWellFormed) {key : String} {bytes : List UInt8}
    (belongs : Belongs (key, bytes)) : (database.insert key bytes).IsWellFormed := by
  obtain ⟨sorted, belong⟩ := isWellFormed_iff.mp (formed.erase key)
  refine isWellFormed_iff.mpr ⟨(isWellFormed_iff.mp formed).1.insert key bytes, ?_⟩
  intro entry member
  rcases mem_place_iff.mp member with rfl | other
  · exact belongs
  · exact belong entry other

theorem put (formed : database.IsWellFormed) (now : Int64) {fragment : Fragment}
    (settable : fragment.slot.IsSettable) (storable : Record.IsStorable fragment.content) :
    (database.put now fragment).IsWellFormed := by
  unfold Database.put
  split
  · exact formed.erase _
  · rename_i isSet
    exact formed.insert (belongs_stored settable storable (by simpa [Fragment.isEmpty] using isSet))

theorem setRules (formed : database.IsWellFormed) {text : String}
    (storable : Record.IsStorable text) : (database.setRules text).IsWellFormed := by
  unfold Database.setRules
  split
  · exact formed.erase _
  · rename_i isSet
    exact formed.insert (belongs_text storable (by simpa using isSet))

/-- Every change keeps a database well-formed. -/
theorem apply (formed : database.IsWellFormed) (now : Int64) {change : StoreWrite}
    (storable : change.IsStorable) : (database.apply now change).IsWellFormed := by
  cases change with
  | setRules text => exact formed.setRules storable
  | setGlobal kind content => exact formed.put now (.inl rfl) storable
  | setResource id content => exact formed.put now (.inr rfl) storable
  | clearGlobal kind => exact formed.erase _
  | clearResource id => exact formed.erase _
  | flush => exact formed
  | reopen => exact formed

theorem foldl (formed : database.IsWellFormed) {run : List (Int64 × StoreWrite)}
    (storable : ∀ step ∈ run, step.2.IsStorable) :
    (run.foldl (fun database step => database.apply step.1 step.2) database).IsWellFormed := by
  induction run generalizing database with
  | nil => exact formed
  | cons step run ih =>
      obtain ⟨first, later⟩ := List.forall_mem_cons.mp storable
      exact ih (formed.apply step.1 first) later

/-! ## Reading -/

/-- A slot is looked up without a fault, and what is found has its label. -/
theorem record_cases (formed : database.IsWellFormed) (slot : Slot) :
    database.record slot = .ok none ∨
      ∃ record, database.record slot = .ok (some record) ∧ record.fragment.slot = slot ∧
        record.fragment.content ≠ "" := by
  cases found : database.get? slot.key with
  | none => exact .inl (record_of_absent found)
  | some bytes =>
      obtain ⟨record, reads, label, isSet⟩ :=
        formed.labelled slot bytes (formed.sorted.mem_entries_iff.mpr found)
      refine .inr ⟨record, ?_, label, isSet⟩
      unfold Database.record
      rw [found]
      simp only [reads]
      rfl

theorem exists_read_eq (formed : database.IsWellFormed) (slot : Slot) :
    ∃ fragment, database.read slot = .ok fragment ∧ fragment.slot = slot := by
  unfold Database.read
  rcases formed.record_cases slot with absent | ⟨record, present, label, _⟩
  · exact ⟨.unset slot, by rw [absent]; rfl, rfl⟩
  · exact ⟨record.fragment, by rw [present]; rfl, label⟩

theorem exists_rules_eq (formed : database.IsWellFormed) :
    ∃ text, database.rules = .ok text := by
  cases found : database.get? rulesKey with
  | none => exact ⟨"", rules_of_absent found⟩
  | some bytes =>
      obtain ⟨text, reads, _⟩ := formed.worded bytes (formed.sorted.mem_entries_iff.mpr found)
      exact ⟨text, by rw [rules_of_found found, reads]; rfl⟩

/-- The entries with a lead hold records, if it is not one of the rules' key. -/
theorem holdsRecord_of_mem_scan (formed : database.IsWellFormed) {lead : String}
    (notRules : ¬ lead.toList <+: rulesKey.toList) {entry : String × List UInt8}
    (member : entry ∈ database.scan lead) : ∃ slot, HoldsRecord slot entry.2 := by
  obtain ⟨present, leads⟩ := mem_scan_iff.mp member
  cases (isWellFormed_iff.mp formed).2 entry present with
  | rules => exact absurd leads notRules
  | record _ holds => exact ⟨_, holds⟩

theorem exists_list_eq (formed : database.IsWellFormed) :
    ∃ records, database.list = .ok records := by
  apply exists_mapM_eq_ok_iff.mpr
  rintro ⟨key, bytes⟩ member
  obtain ⟨slot, record, reads, _⟩ : ∃ slot, HoldsRecord slot bytes := by
    rcases List.mem_append.mp member with inGlobals | inResources
    · exact formed.holdsRecord_of_mem_scan (by decide) inGlobals
    · exact formed.holdsRecord_of_mem_scan (by decide) inResources
  exact ⟨record, congrArg decoded reads⟩

end IsWellFormed

/-- Every database that changes lead to from the empty one is well-formed.  No read of it and
no list fails, and a fragment that is read has the label that was asked for, be it set or
not. -/
theorem reached_isWellFormed (run : List (Int64 × StoreWrite))
    (storable : ∀ step ∈ run, step.2.IsStorable) :
    (after run).IsWellFormed ∧
      (∀ slot, ∃ record?, (after run).record slot = .ok record?) ∧
      (∃ records, (after run).list = .ok records) ∧
      (∃ text, (after run).source.rules = .ok text) ∧
      (∀ kind, ∃ fragment, (after run).source.global kind = .ok fragment ∧
        fragment.kind = kind ∧ fragment.scope = .global) ∧
      ∀ id, ∃ fragment, (after run).source.resource id = .ok fragment ∧
        fragment.kind = .serverScript ∧ fragment.scope = .resource id := by
  have formed : (after run).IsWellFormed := IsWellFormed.empty.foldl storable
  refine ⟨formed, fun slot => ?_, formed.exists_list_eq, formed.exists_rules_eq, fun kind => ?_,
    fun id => ?_⟩
  · rcases formed.record_cases slot with absent | ⟨record, present, _⟩
    · exact ⟨none, absent⟩
    · exact ⟨some record, present⟩
  · obtain ⟨fragment, reads, label⟩ := formed.exists_read_eq ⟨.global, kind⟩
    obtain ⟨scope, kind⟩ := Slot.mk.inj label
    exact ⟨fragment, reads, kind, scope⟩
  · obtain ⟨fragment, reads, label⟩ := formed.exists_read_eq ⟨.resource id, .serverScript⟩
    obtain ⟨scope, kind⟩ := Slot.mk.inj label
    exact ⟨fragment, reads, kind, scope⟩

/-- A style is overwritten with nothing, two scripts stand under ids of which one begins like
the other, and the rules are set and cleared.  The two scripts are all that is left: the
record of page 1 has its own text and time, page 1 is read as such, and the style is unset. -/
theorem reached_isWellFormed_of_cleared_and_overwritten :
    let run : List (Int64 × StoreWrite) :=
      [(1, .setGlobal .style "a{}"), (2, .setResource 10 "echo(10);"), (3, .setRules "all"),
        (4, .setResource 1 "echo(1);"), (5, .setGlobal .style ""), (6, .reopen),
        (7, .setRules ""), (8, .clearResource 2)]
    (∀ step ∈ run, step.2.IsStorable) ∧ (after run).IsWellFormed ∧
      (after run).entries.map (·.1) =
        ["resource:10:server_script", "resource:1:server_script"] ∧
      (after run).record ⟨.resource 1, .serverScript⟩ =
        .ok (some ⟨⟨.serverScript, .resource 1, "echo(1);"⟩, 4⟩) ∧
      (∃ fragment, (after run).source.global .style = .ok fragment ∧
        fragment.kind = .style ∧ fragment.scope = .global ∧ fragment.content = "") ∧
      ∃ fragment, (after run).source.resource 1 = .ok fragment ∧
        fragment.kind = .serverScript ∧ fragment.scope = .resource 1 ∧
        fragment.content = "echo(1);" := by
  intro run
  have storable : ∀ step ∈ run, step.2.IsStorable := by decide
  obtain ⟨formed, _, _, _, globals, resources⟩ := reached_isWellFormed run storable
  have styleRead : (after run).source.global .style = .ok (.unset ⟨.global, .style⟩) := rfl
  have scriptRead : (after run).source.resource 1 =
      .ok ⟨.serverScript, .resource 1, "echo(1);"⟩ := rfl
  obtain ⟨style, readsStyle, styleKind, styleScope⟩ := globals .style
  obtain ⟨script, readsScript, scriptKind, scriptScope⟩ := resources 1
  obtain rfl := Except.ok.inj (readsStyle.symm.trans styleRead)
  obtain rfl := Except.ok.inj (readsScript.symm.trans scriptRead)
  exact ⟨storable, formed, rfl, rfl, ⟨_, readsStyle, styleKind, styleScope, rfl⟩,
    _, readsScript, scriptKind, scriptScope, rfl⟩

end Database

end PageInjection
