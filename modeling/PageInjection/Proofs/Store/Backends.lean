import PageInjection.Injection
import PageInjection.Proofs.Store.Slots

/-!
# Two backends, one store

A run changes a store and asks it, in any order.  The database and the store in
memory give the same answers in every run: they agree on all slots and on the
rule text, and every change keeps it so.
-/

namespace PageInjection

/-- The text of a change, if it has one, can be stored. -/
def StoreWrite.IsStorable : StoreWrite → Prop
  | .setRules text => Record.IsStorable text
  | .setGlobal _ content => Record.IsStorable content
  | .setResource _ content => Record.IsStorable content
  | .clearGlobal _ | .clearResource _ | .flush | .reopen => True

instance : DecidablePred StoreWrite.IsStorable
  | .setRules text => inferInstanceAs (Decidable (Record.IsStorable text))
  | .setGlobal _ content => inferInstanceAs (Decidable (Record.IsStorable content))
  | .setResource _ content => inferInstanceAs (Decidable (Record.IsStorable content))
  | .clearGlobal _ | .clearResource _ | .flush | .reopen => inferInstanceAs (Decidable True)

/-- The database and the store in memory hold the same. -/
structure Agrees (database : Database) (store : MemoryStore) : Prop where
  slots : ∀ slot, database.read slot = .ok (store.get slot)
  rules : database.rules = .ok store.rules

namespace Agrees

variable {database : Database} {store : MemoryStore}

theorem empty : Agrees .empty .empty where
  slots := Database.read_empty
  rules := Database.rules_empty

theorem put (agrees : Agrees database store) (now : Int64) (slot : Slot) {content : String}
    (storable : Record.IsStorable content) :
    Agrees (database.put now ⟨slot.kind, slot.scope, content⟩) (store.set slot content) where
  slots other := by
    rw [database.read_put now ⟨slot.kind, slot.scope, content⟩ storable, MemoryStore.get_set,
      agrees.slots other]
    exact (apply_ite Except.ok _ _ _).symm
  rules := by
    rw [Database.rules_put]
    exact agrees.rules

theorem clear (agrees : Agrees database store) (slot : Slot) :
    Agrees (database.clear slot).2 (store.set slot "") where
  slots other := by
    rw [Database.read_clear, MemoryStore.get_set, agrees.slots other]
    by_cases same : other = slot
    · rw [if_pos same, if_pos same, same]
      rfl
    · rw [if_neg same, if_neg same]
  rules := by
    rw [Database.rules_clear]
    exact agrees.rules

theorem setRules (agrees : Agrees database store) {text : String}
    (storable : Record.IsStorable text) :
    Agrees (database.setRules text) (store.setRules text) where
  slots slot := (Database.read_setRules database text slot).trans (agrees.slots slot)
  rules := Database.rules_setRules database storable

/-- Whatever the time is, a change keeps the stores in agreement. -/
theorem apply (agrees : Agrees database store) (now : Int64) {change : StoreWrite}
    (storable : change.IsStorable) : Agrees (database.apply now change) (store.apply change) := by
  cases change with
  | setRules text => exact agrees.setRules storable
  | setGlobal kind content => exact agrees.put now ⟨.global, kind⟩ storable
  | setResource id content => exact agrees.put now ⟨.resource id, .serverScript⟩ storable
  | clearGlobal kind => exact agrees.clear ⟨.global, kind⟩
  | clearResource id => exact agrees.clear ⟨.resource id, .serverScript⟩
  | flush => exact agrees
  | reopen => exact agrees

theorem source_eq (agrees : Agrees database store) : database.source = store.source := by
  unfold Database.source MemoryStore.source
  simp only [agrees.slots, agrees.rules]

end Agrees

/-- What can be asked of a store, directly or by way of an injection. -/
inductive StoreQuestion where
  | rules
  | global (kind : FragmentKind)
  | resource (id : ResourceId)
  | render (point : LifecyclePoint) (context : RequestContext)

/-- The answer to a question. -/
inductive StoreAnswer where
  | rules (answer : Except StoreFault String)
  | fragment (answer : Except StoreFault Fragment)
  | rendered (answer : RenderedPoint)

/-- What a source answers, when it is injected with an engine and its limits. -/
def FragmentSource.answer (engine : Engine) (limits : Limits) (source : FragmentSource) :
    StoreQuestion → StoreAnswer
  | .rules => .rules source.rules
  | .global kind => .fragment (source.global kind)
  | .resource id => .fragment (source.resource id)
  | .render point context =>
      .rendered (({ engine, limits, source } : Injection).render context point)

/-- One step of a run: a change at a time, or a question. -/
inductive StoreStep where
  | write (now : Int64) (change : StoreWrite)
  | ask (question : StoreQuestion)

/-- The text of a step, if it changes one, can be stored. -/
def StoreStep.IsStorable : StoreStep → Prop
  | .write _ change => change.IsStorable
  | .ask _ => True

instance : DecidablePred StoreStep.IsStorable
  | .write _ change => inferInstanceAs (Decidable change.IsStorable)
  | .ask _ => inferInstanceAs (Decidable True)

/-- A kind of store: its empty state, its changes and its reads. -/
structure Backend (State : Type) where
  empty : State
  apply : State → Int64 → StoreWrite → State
  source : State → FragmentSource

namespace Backend

/-- The database as a store. -/
def database : Backend Database where
  empty := .empty
  apply := Database.apply
  source := Database.source

/-- The store in memory; it keeps no times. -/
def memory : Backend MemoryStore where
  empty := .empty
  apply store _ change := store.apply change
  source := MemoryStore.source

variable {State : Type} (backend : Backend State) (engine : Engine) (limits : Limits)

/-- The answers from a state on. -/
def answersFrom (state : State) : List StoreStep → List StoreAnswer
  | [] => []
  | .write now change :: steps => answersFrom (backend.apply state now change) steps
  | .ask question :: steps =>
      (backend.source state).answer engine limits question :: answersFrom state steps

/-- The answers in a run that begins with the empty store. -/
def answers (steps : List StoreStep) : List StoreAnswer :=
  backend.answersFrom engine limits backend.empty steps

end Backend

theorem Agrees.answersFrom_eq {database : Database} {store : MemoryStore}
    (agrees : Agrees database store) (engine : Engine) (limits : Limits)
    {steps : List StoreStep} (storable : ∀ step ∈ steps, step.IsStorable) :
    Backend.database.answersFrom engine limits database steps =
      Backend.memory.answersFrom engine limits store steps := by
  induction steps generalizing database store with
  | nil => rfl
  | cons step steps ih =>
      rw [List.forall_mem_cons] at storable
      cases step with
      | write now change =>
          exact ih (agrees.apply now storable.1) storable.2
      | ask question =>
          have later := ih agrees storable.2
          simp only [Backend.answersFrom, later]
          simp only [Backend.database, Backend.memory, agrees.source_eq]

/-- No run tells the backends apart, whatever the changes, their times and the
questions are. -/
theorem Backend.answers_database_eq_memory (engine : Engine) (limits : Limits)
    {steps : List StoreStep} (storable : ∀ step ∈ steps, step.IsStorable) :
    Backend.database.answers engine limits steps = Backend.memory.answers engine limits steps :=
  Agrees.empty.answersFrom_eq engine limits storable

/-- A style sheet is set and read, and is gone once it is cleared. -/
theorem Backend.answers_of_style_set_and_cleared :
    let steps : List StoreStep :=
      [.write 1 (.setRules "all"), .write 2 (.setGlobal .style "a{}"), .ask (.global .style),
        .write 3 (.clearGlobal .style), .write 4 .reopen, .ask (.render .head {}), .ask .rules]
    (∀ step ∈ steps, step.IsStorable) ∧
      Backend.database.answers .standard {} steps =
        [.fragment (.ok ⟨.style, .global, "a{}"⟩), .rendered {}, .rules (.ok "all")] := by
  intro steps
  have storable : ∀ step ∈ steps, step.IsStorable := by decide
  exact ⟨storable, (Backend.answers_database_eq_memory .standard {} storable).trans rfl⟩

end PageInjection
