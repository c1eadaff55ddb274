import PageInjection.Proofs.Command.Outcome

/-!
# Commands are atomic

A command that fails leaves the database as it was.  One that ends well has changed
nothing if it only asks, and nothing but its own slot if it sets or clears one.
-/

namespace PageInjection

namespace Command

/-- The key of the slot that a command sets or clears; a command that only asks has
none. -/
def key? : Command → Option String
  | .setGlobal kind _ => some (Slot.key ⟨.global, kind⟩)
  | .setResource id _ => some (Slot.key ⟨.resource id, .serverScript⟩)
  | .setRules _ => some rulesKey
  | .clearGlobal kind => some (Slot.key ⟨.global, kind⟩)
  | .clearResource id => some (Slot.key ⟨.resource id, .serverScript⟩)
  | .clearRules => some rulesKey
  | .render _ _ _ => none
  | .check _ _ => none
  | .exec _ _ => none
  | .list _ => none

/-- What a failure, an answer to a question, and an answer to a change have left of a
database. -/
structure IsAtomic (key? : Option String) (database : Database)
    (outcome : Except CommandFault String × Database) : Prop where
  failed : ∀ fault, outcome.1 = .error fault → outcome.2 = database
  asked : ∀ answer, outcome.1 = .ok answer → key? = none → outcome.2 = database
  changed : ∀ answer, outcome.1 = .ok answer →
    ∀ key, key? ≠ some key → outcome.2.get? key = database.get? key

variable {database changed : Database}

theorem IsAtomic.unchanged (key? : Option String) (answer : Except CommandFault String) :
    IsAtomic key? database (answer, database) :=
  ⟨fun _ _ => rfl, fun _ _ _ => rfl, fun _ _ _ _ => rfl⟩

theorem IsAtomic.of_change {key : String} {answer : String}
    (others : ∀ other, other ≠ key → changed.get? other = database.get? other) :
    IsAtomic (some key) database (.ok answer, changed) where
  failed _ failed := nomatch failed
  asked _ _ asks := nomatch asks
  changed _ _ other different := others other fun same => different (congrArg some same.symm)

theorem IsAtomic.put (setting : CommandSetting) (slot : Slot) (source : ContentSource)
    (storable : ∀ text, content setting source = .ok text → Record.IsStorable text) :
    IsAtomic (some slot.key) database ((Command.put setting slot source).run database) := by
  cases taken : content setting source with
  | error fault =>
      rw [run_put_of_fault database slot taken]
      exact .unchanged _ _
  | ok text =>
      rw [run_put_of_text database slot taken (storable text taken)]
      apply IsAtomic.of_change
      intro other different
      exact (database.get?_put setting.now ⟨slot.kind, slot.scope, text⟩ other).trans
        (if_neg different)

theorem IsAtomic.clear (slot : Slot) (answer : String) :
    IsAtomic (some slot.key) database (.ok answer, (database.clear slot).2) := by
  apply IsAtomic.of_change
  intro other different
  rw [Database.get?_clear, if_neg different]

theorem IsAtomic.setRules (text answer : String) :
    IsAtomic (some rulesKey) database (.ok answer, database.setRules text) := by
  apply IsAtomic.of_change
  intro other different
  rw [Database.get?_setRules, if_neg different]

/-- Every command is atomic on every database, whatever bytes stand in it: the only
thing that is asked for is that the text it stores fits into a record. -/
theorem outcome_isAtomic (setting : CommandSetting) (command : Command) (database : Database)
    (storable : ∀ source ∈ command.source?, ∀ text,
      content setting source = .ok text → Record.IsStorable text) :
    IsAtomic command.key? database (command.outcome setting database) := by
  cases command with
  | render point showErrors request =>
      rw [outcome_render]
      exact .unchanged _ _
  | check rules request =>
      cases rules with
      | none =>
          rw [outcome_check_stored]
          exact .unchanged _ _
      | some rules =>
          rw [outcome_check_given]
          exact .unchanged _ _
  | exec source request =>
      rw [outcome_exec]
      exact .unchanged _ _
  | setGlobal kind source =>
      rw [outcome_setGlobal]
      exact .put setting _ source (storable source rfl)
  | setResource id source =>
      rw [outcome_setResource]
      exact .put setting _ source (storable source rfl)
  | setRules text =>
      rw [outcome_setRules]
      exact .setRules text _
  | clearGlobal kind =>
      rw [outcome_clearGlobal]
      exact .clear _ _
  | clearResource id =>
      rw [outcome_clearResource]
      exact .clear _ _
  | clearRules =>
      -- the rules are read before they go, so a failure comes before any change
      rw [outcome_clearRules]
      cases database.rules with
      | error fault => exact .unchanged _ _
      | ok text => exact .setRules "" _
  | list format =>
      rw [outcome_list]
      exact .unchanged _ _

/-- A style sheet is set beside rules that cannot be read, and these stay. -/
theorem outcome_isAtomic_beside_unreadable_rules :
    let setting : CommandSetting := { readFile := fun _ => .error .missing }
    let database := Database.empty.insert rulesKey [0xFF]
    let command := Command.setGlobal .style (.inline "a{}")
    (∀ source ∈ command.source?, ∀ text,
        content setting source = .ok text → Record.IsStorable text) ∧
      IsAtomic command.key? database (command.outcome setting database) ∧
      (command.outcome setting database).2.get? rulesKey = some [0xFF] := by
  intro setting database command
  have storable : ∀ source ∈ command.source?, ∀ text,
      content setting source = .ok text → Record.IsStorable text := by
    intro source member text taken
    obtain rfl := Option.some.inj member
    obtain rfl := Except.ok.inj taken
    decide
  have atomic := outcome_isAtomic setting command database storable
  exact ⟨storable, atomic, by decide +kernel⟩

end Command

end PageInjection
