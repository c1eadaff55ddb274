import PageInjection.Injection
import PageInjection.Proofs.Store.Slots

/-!
# Failing reads count as empty slots

A page is rendered from a store that fails in some of its reads just as from the
store in which the slots of these reads are empty.  The same holds of a database
in which some of the bytes are no record, and of the database without them.
-/

namespace PageInjection

/-! ## Answers in place of faults -/

/-- The source that answers with what a page is rendered from when a read fails. -/
def FragmentSource.degraded (source : FragmentSource) : FragmentSource where
  rules := .ok (source.rules.toOption.getD "")
  global kind := .ok ((source.global kind).toOption.getD (.unset ⟨.global, kind⟩))
  resource id := .ok ((source.resource id).toOption.getD (.unset ⟨.resource id, .serverScript⟩))

/-- A page shows of a source no more than the answers that are left of it. -/
theorem Injection.render_degraded (injection : Injection) (context : RequestContext)
    (point : LifecyclePoint) :
    ({ injection with source := injection.source.degraded } : Injection).render context point =
      injection.render context point := by
  cases point <;> rfl

/-- An answer is a fault when its read fails, and the usual one otherwise. -/
structure FailsWhen {α : Type} (fails : Prop) (answer usual : Except StoreFault α) : Prop where
  fault : fails → ∃ fault, answer = .error fault
  usual : ¬ fails → answer = usual

theorem FailsWhen.getD_toOption {α : Type} {fails : Prop} [Decidable fails]
    {answer : Except StoreFault α} {usual default : α}
    (failsWhen : FailsWhen fails answer (.ok usual)) :
    answer.toOption.getD default = if fails then default else usual := by
  by_cases failed : fails
  · obtain ⟨fault, faulty⟩ := failsWhen.fault failed
    rw [if_pos failed, faulty]
    rfl
  · rw [if_neg failed, failsWhen.usual failed]
    rfl

/-- Exactly some sorts of reads fail, each time with any fault. -/
structure FragmentSource.FailsIn (failed : FragmentSource) (reads : List StoreRead)
    (source : FragmentSource) : Prop where
  rules : FailsWhen (.rules ∈ reads) failed.rules source.rules
  global : ∀ kind, FailsWhen (.global kind ∈ reads) (failed.global kind) (source.global kind)
  resource : ∀ id, FailsWhen (.resource ∈ reads) (failed.resource id) (source.resource id)

theorem FragmentSource.failing_failsIn (source : FragmentSource) (reads : List StoreRead)
    (fault : StoreFault) : (source.failing reads fault).FailsIn reads source where
  rules := ⟨fun fails => ⟨fault, if_pos fails⟩, fun works => if_neg works⟩
  global _ := ⟨fun fails => ⟨fault, if_pos fails⟩, fun works => if_neg works⟩
  resource _ := ⟨fun fails => ⟨fault, if_pos fails⟩, fun works => if_neg works⟩

/-! ## The store in memory with empty slots -/

/-- The sort of read that answers about a slot. -/
def Slot.read (slot : Slot) : StoreRead :=
  match slot.scope with
  | .global => .global slot.kind
  | .resource _ => .resource

namespace MemoryStore

/-- The store without what some sorts of reads answer about. -/
def emptied (store : MemoryStore) (reads : List StoreRead) : MemoryStore where
  rules := if .rules ∈ reads then "" else store.rules
  contents := store.contents.filter fun (slot, _) => slot.read ∉ reads

theorem content_emptied (store : MemoryStore) (reads : List StoreRead) (slot : Slot) :
    (store.emptied reads).content slot =
      if slot.read ∈ reads then "" else store.content slot := by
  unfold content emptied
  rw [lookup_filter_keys store.contents fun slot => slot.read ∉ reads]
  by_cases member : slot.read ∈ reads
  · simp [member]
  · simp [member]

theorem get_emptied (store : MemoryStore) (reads : List StoreRead) (slot : Slot) :
    (store.emptied reads).get slot =
      if slot.read ∈ reads then .unset slot else store.get slot := by
  unfold get
  rw [content_emptied]
  by_cases member : slot.read ∈ reads
  · rw [if_pos member, if_pos member]
    rfl
  · rw [if_neg member, if_neg member]

/-- What is left of a source that fails is what the emptied store answers. -/
theorem degraded_eq_source_emptied {store : MemoryStore} {reads : List StoreRead}
    {failed : FragmentSource} (failsIn : failed.FailsIn reads store.source) :
    failed.degraded = (store.emptied reads).source := by
  unfold FragmentSource.degraded source
  congr 1
  · rw [failsIn.rules.getD_toOption]
    rfl
  · funext kind
    rw [(failsIn.global kind).getD_toOption, get_emptied]
    rfl
  · funext id
    rw [(failsIn.resource id).getD_toOption, get_emptied]
    rfl

end MemoryStore

/-! ## The database without unreadable entries -/

namespace Database

/-- Whether bytes can be read under a key: as a text under the key of the rules, and
as a record under any other. -/
def isReadable (key : String) (bytes : List UInt8) : Bool :=
  if key = rulesKey then (Record.readText bytes).isOk else (Record.readStored bytes).isOk

/-- The database without the entries that cannot be read. -/
def readable (database : Database) : Database :=
  ⟨database.entries.filter fun (key, _) => (database.get? key).any (isReadable key)⟩

theorem get?_readable (database : Database) (key : String) :
    database.readable.get? key = (database.get? key).filter (isReadable key) := by
  have found : database.readable.get? key =
      if (database.get? key).any (isReadable key) then database.get? key else none :=
    lookup_filter_keys database.entries (fun key => (database.get? key).any (isReadable key)) key
  rw [found]
  cases database.get? key with
  | none => rfl
  | some bytes => rfl

/-- What is answered about the bytes that are found. -/
def answer {α : Type} (unset : α) (decode : List UInt8 → Except Record.Fault α) :
    Option (List UInt8) → Except StoreFault α
  | none => .ok unset
  | some bytes => decoded (decode bytes)

theorem answer_filter {α : Type} {unset : α} {decode : List UInt8 → Except Record.Fault α}
    {isReadable : List UInt8 → Bool} (found : Option (List UInt8))
    (decides : ∀ bytes, isReadable bytes = (decode bytes).isOk) :
    answer unset decode (found.filter isReadable) =
      .ok ((answer unset decode found).toOption.getD unset) := by
  cases found with
  | none => rfl
  | some bytes =>
      rw [Option.filter_some, decides]
      cases result : decode bytes with
      | error fault =>
          simp [answer, result, decoded, Except.isOk, Except.toBool, Except.toOption]
      | ok value =>
          simp [answer, result, decoded, Except.isOk, Except.toBool, Except.toOption]

theorem rules_eq_answer (database : Database) :
    database.rules = answer "" Record.readText (database.get? rulesKey) := by
  unfold rules
  cases database.get? rulesKey with
  | none => rfl
  | some bytes => rfl

theorem read_eq_answer (database : Database) (slot : Slot) :
    database.read slot =
      answer (.unset slot) (fun bytes => (Record.readStored bytes).map (·.fragment))
        (database.get? slot.key) := by
  unfold read record
  cases database.get? slot.key with
  | none => rfl
  | some bytes =>
      simp only [answer]
      cases Record.readStored bytes with
      | error fault => rfl
      | ok stored => rfl

theorem rules_readable (database : Database) :
    database.readable.rules = .ok (database.rules.toOption.getD "") := by
  rw [rules_eq_answer, rules_eq_answer, get?_readable]
  apply answer_filter
  intro bytes
  simp [isReadable]

theorem read_readable (database : Database) (slot : Slot) :
    database.readable.read slot = .ok ((database.read slot).toOption.getD (.unset slot)) := by
  rw [read_eq_answer, read_eq_answer, get?_readable]
  apply answer_filter
  intro bytes
  rw [isReadable, if_neg slot.key_ne_rulesKey]
  cases Record.readStored bytes with
  | error fault => rfl
  | ok stored => rfl

/-- What is left of a database that cannot be read everywhere is what the database
without the unreadable entries answers. -/
theorem degraded_eq_source_readable (database : Database) :
    database.source.degraded = database.readable.source := by
  unfold FragmentSource.degraded source
  simp only [rules_readable, read_readable]

end Database

/-! ## Rendering -/

namespace Injection

/-- A failure of the store is an empty slot and nothing else, at both points, for
every request: whichever reads of a store in memory fail, and whatever bytes stand
in a database. -/
theorem failing_reads_are_empty_slots (engine : Engine) (limits : Limits)
    (context : RequestContext) (point : LifecyclePoint) :
    (∀ (store : MemoryStore) (reads : List StoreRead) (failed : FragmentSource),
      failed.FailsIn reads store.source →
        ({ engine, limits, source := failed } : Injection).render context point =
          ({ engine, limits, source := (store.emptied reads).source } : Injection).render
            context point ∧
        (store.emptied reads).rules = (if .rules ∈ reads then "" else store.rules) ∧
        ∀ slot, (store.emptied reads).content slot =
          if slot.read ∈ reads then "" else store.content slot) ∧
    ∀ database : Database,
      ({ engine, limits, source := database.source } : Injection).render context point =
          ({ engine, limits, source := database.readable.source } : Injection).render
            context point ∧
        ∀ key, database.readable.get? key =
          (database.get? key).filter (Database.isReadable key) := by
  constructor
  · intro store reads failed failsIn
    refine ⟨?_, rfl, store.content_emptied reads⟩
    rw [← MemoryStore.degraded_eq_source_emptied failsIn]
    exact (render_degraded { engine, limits, source := failed } context point).symm
  · intro database
    refine ⟨?_, database.get?_readable⟩
    rw [← Database.degraded_eq_source_readable]
    exact (render_degraded { engine, limits, source := database.source } context point).symm

/-- The client script cannot be read: the footer is that of a store without one, and
the script of the page still runs. -/
theorem failing_client_script_is_empty_slot :
    let store := ((MemoryStore.empty.setRules "all").setGlobal .clientScript "go();").setResource
      4 "echo(\"[page]\");"
    let failed := store.source.failing [.global .clientScript] (.backend "disk gone")
    let context : RequestContext := { isSingular := true, resourceId := some 4 }
    ({ source := failed } : Injection).render context .footer =
        ({ source := (store.emptied [.global .clientScript]).source } : Injection).render
          context .footer ∧
      ({ source := failed } : Injection).render context .footer = ⟨"[page]", []⟩ := by
  intro store failed context
  have failsIn := store.source.failing_failsIn [.global .clientScript] (.backend "disk gone")
  have same := ((failing_reads_are_empty_slots .standard {} context .footer).1 store _ failed
    failsIn).1
  exact ⟨same, by decide +kernel⟩

end Injection

end PageInjection
