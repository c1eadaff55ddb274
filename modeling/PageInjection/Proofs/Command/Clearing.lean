import PageInjection.Proofs.Command.Outcome

/-!
# Clearing

A fragment is cleared by taking out whatever stands under the key of its slot, so that
damaged bytes are cleared like any others.  The rule text is read before it is cleared:
bytes that hold no text stay where they are, and the command fails.
-/

namespace PageInjection

/-- What an operator can clear. -/
inductive Clearable where
  | fragment (kind : FragmentKind)
  | script (id : ResourceId)
  | rules
deriving DecidableEq, Repr

namespace Clearable

def command : Clearable → Command
  | .fragment kind => .clearGlobal kind
  | .script id => .clearResource id
  | .rules => .clearRules

/-- The read of what was cleared succeeds and finds nothing. -/
def IsUnsetIn (source : FragmentSource) : Clearable → Prop
  | .fragment kind => source.global kind = .ok (.unset ⟨.global, kind⟩)
  | .script id => source.resource id = .ok (.unset ⟨.resource id, .serverScript⟩)
  | .rules => source.rules = .ok ""

/-- A clear command has ended well and left nothing of what it was to clear. -/
structure IsCleared (part : Clearable) (outcome : Except CommandFault String × Database) :
    Prop where
  answered : ∃ answer, outcome.1 = .ok answer
  unset : part.IsUnsetIn outcome.2.source

end Clearable

namespace Database

/-- Whatever stands under the key of the rule text starts with a text. -/
def HoldsRules (database : Database) : Prop :=
  ∀ bytes, database.get? rulesKey = some bytes →
    ∃ text, Record.IsStorable text ∧ Record.putText text <+: bytes

theorem holdsRules_iff {database : Database} :
    database.HoldsRules ↔ ∃ text, database.rules = .ok text := by
  cases found : database.get? rulesKey with
  | none => exact iff_of_true (by simp [HoldsRules, found]) ⟨"", rules_of_absent found⟩
  | some bytes => simp [HoldsRules, found, rules_of_found found, Record.text_isExact.read_iff]

theorem exists_of_rules_eq_error {database : Database} {fault : StoreFault}
    (failed : database.rules = .error fault) : ∃ reason, fault = .encoding reason := by
  cases found : database.get? rulesKey with
  | none =>
      rw [rules_of_absent found] at failed
      exact nomatch failed
  | some bytes =>
      rw [rules_of_found found] at failed
      exact Record.exists_of_decoded_eq_error failed

end Database

namespace Command

variable (setting : CommandSetting) (database : Database)

/-- A fragment goes whatever stands in its slot. -/
theorem isCleared_of_ne_rules {part : Clearable} (other : part ≠ .rules) :
    part.IsCleared (part.command.outcome setting database) := by
  cases part with
  | fragment kind =>
      rw [Clearable.command, outcome_clearGlobal]
      exact ⟨⟨_, rfl⟩, (database.read_clear _ _).trans (if_pos rfl)⟩
  | script id =>
      rw [Clearable.command, outcome_clearResource]
      exact ⟨⟨_, rfl⟩, (database.read_clear _ _).trans (if_pos rfl)⟩
  | rules => exact absurd rfl other

theorem isCleared_clearRules (holds : database.HoldsRules) :
    Clearable.rules.IsCleared (Command.clearRules.outcome setting database) := by
  obtain ⟨text, read⟩ := Database.holdsRules_iff.mp holds
  have storable : Record.IsStorable "" := by decide
  rw [outcome_clearRules, read]
  exact ⟨⟨_, rfl⟩, database.rules_setRules storable⟩

theorem outcome_clearRules_of_damaged (damaged : ¬ database.HoldsRules) :
    ∃ reason, Command.clearRules.outcome setting database =
      (.error (.store (.encoding reason)), database) := by
  rw [outcome_clearRules]
  cases read : database.rules with
  | ok text => exact absurd (Database.holdsRules_iff.mpr ⟨text, read⟩) damaged
  | error fault =>
      obtain ⟨reason, rfl⟩ := Database.exists_of_rules_eq_error read
      exact ⟨reason, rfl⟩

/-- Clearing works on every database, whatever bytes stand in it, but for one case: rules
are not cleared when their bytes hold no text.  The command fails then, and the database
stays as it was. -/
theorem isCleared_iff (part : Clearable) :
    (part.IsCleared (part.command.outcome setting database) ↔
      (part = .rules → database.HoldsRules)) ∧
    (part = .rules → ¬ database.HoldsRules →
      ∃ reason, part.command.outcome setting database =
        (.error (.store (.encoding reason)), database)) := by
  by_cases rules : part = .rules
  · subst rules
    by_cases holds : database.HoldsRules
    · exact ⟨iff_of_true (isCleared_clearRules setting database holds) fun _ => holds,
        fun _ damaged => absurd holds damaged⟩
    · obtain ⟨reason, failed⟩ := outcome_clearRules_of_damaged setting database holds
      refine ⟨iff_of_false ?_ fun kept => holds (kept rfl), fun _ _ => ⟨reason, failed⟩⟩
      rintro ⟨⟨answer, answered⟩, _⟩
      rw [Clearable.command, failed] at answered
      exact nomatch answered
  · refine ⟨iff_of_true ?_ (absurd · rules), (absurd · rules)⟩
    exact isCleared_of_ne_rules setting database rules

/-- Of a style sheet and rules that are both damaged, the style sheet is cleared and the
rules are not. -/
theorem isCleared_of_damaged_style_and_rules :
    let setting : CommandSetting := { readFile := fun _ => .error .missing }
    let database : Database := ⟨[("global:style", [0xFF]), ("rules", [0xFF])]⟩
    ¬ database.HoldsRules ∧
      (Clearable.fragment .style).IsCleared
        ((Command.clearGlobal .style).outcome setting database) ∧
      ∃ reason, Command.clearRules.outcome setting database =
        (.error (.store (.encoding reason)), database) := by
  intro setting database
  have damaged : ¬ database.HoldsRules := by
    rw [Database.holdsRules_iff]
    rintro ⟨text, read⟩
    exact nomatch read
  exact ⟨damaged, (isCleared_iff setting database (.fragment .style)).1.mpr nofun,
    (isCleared_iff setting database .rules).2 rfl damaged⟩

/-- A single byte holds no text, and it stays where the rules are kept. -/
theorem not_isCleared_of_rules_cut_short :
    ¬ Clearable.rules.IsCleared
      (Command.clearRules.outcome { readFile := fun _ => .error .missing }
        ⟨[("rules", [0xFF])]⟩) := by
  rintro ⟨⟨answer, answered⟩, _⟩
  exact nomatch answered

end Command

end PageInjection
