import PageInjection.Command.Execute
import PageInjection.Proofs.Store.Slots

/-!
# The outcome of each command

What every command answers on a database and what it leaves there, without the
steps in between.
-/

namespace PageInjection

namespace CommandRun

variable {α β : Type} (database : Database)

theorem run_bind (first : CommandRun α) (next : α → CommandRun β) :
    (first >>= next).run database =
      match first.run database with
      | (.ok value, changed) => (next value).run changed
      | (.error fault, changed) => (.error fault, changed) := by
  change (ExceptT.bindCont next (first.run database).1).run (first.run database).2 = _
  cases first.run database with
  | mk answer changed => cases answer <;> rfl

theorem run_liftExcept (answer : Except CommandFault α) :
    (Command.liftExcept answer).run database = (answer, database) := by
  cases answer <;> rfl

theorem run_reading (read : Database → Except StoreFault α) :
    (Command.reading read).run database = ((read database).mapError .store, database) :=
  run_liftExcept database _

theorem run_modify_bind (change : Database → Database) (next : CommandRun β) :
    ((modify change : CommandRun PUnit) >>= fun _ => next).run database =
      next.run (change database) :=
  rfl

/-- Reading from the database, and making an answer of what was read. -/
theorem run_reading_bind_pure (read : Database → Except StoreFault α) (report : α → β) :
    (Command.reading read >>= fun value => pure (report value)).run database =
      (((read database).mapError CommandFault.store).map report, database) := by
  rw [run_bind, run_reading]
  cases read database <;> rfl

end CommandRun

namespace Command

variable (setting : CommandSetting) (database : Database)

section Put

variable {setting} {source : ContentSource}

theorem run_put_of_fault {fault : CommandFault} (slot : Slot)
    (failed : content setting source = .error fault) :
    (put setting slot source).run database = (.error fault, database) := by
  unfold put
  rw [CommandRun.run_bind, CommandRun.run_liftExcept, failed]

/-- A slot that is set is read again, and that does not fail. -/
theorem run_put_of_text {text : String} (slot : Slot) (taken : content setting source = .ok text)
    (storable : Record.IsStorable text) :
    (put setting slot source).run database =
      (.ok (Report.stored slot
        (if text.isEmpty then none else some ⟨⟨slot.kind, slot.scope, text⟩, setting.now⟩)),
        database.put setting.now ⟨slot.kind, slot.scope, text⟩) := by
  have written : (database.put setting.now ⟨slot.kind, slot.scope, text⟩).record slot = .ok
      (if text.isEmpty then none else some ⟨⟨slot.kind, slot.scope, text⟩, setting.now⟩) :=
    database.record_put setting.now ⟨slot.kind, slot.scope, text⟩ storable
  unfold put
  rw [CommandRun.run_bind, CommandRun.run_liftExcept, taken]
  -- from here on the slot is changed, so the read that follows must not fail
  simp only [CommandRun.run_modify_bind, CommandRun.run_reading_bind_pure, written]
  rfl

end Put

theorem outcome_render (point : LifecyclePoint) (showErrors : Bool) (request : RequestFlags) :
    (Command.render point showErrors request).outcome setting database =
      (.ok (Report.rendered
        (({ engine := setting.engine, limits := setting.limits,
            source := database.source } : Injection).render request.context point) showErrors),
        database) :=
  rfl

theorem outcome_check_given (rules : String) (request : RequestFlags) :
    (Command.check (some rules) request).outcome setting database =
      (.ok (Report.checked (.parse rules) request.context), database) :=
  rfl

theorem outcome_check_stored (request : RequestFlags) :
    (Command.check none request).outcome setting database =
      ((database.rules.mapError CommandFault.store).map fun rules =>
        Report.checked (.parse rules) request.context, database) :=
  CommandRun.run_reading_bind_pure database _ _

theorem outcome_exec (source : ContentSource) (request : RequestFlags) :
    (Command.exec source request).outcome setting database =
      ((content setting source).bind fun script =>
        let result := Sandbox.executeFor setting.engine setting.limits script request.context
        match result.error with
        | some message => .error (.scriptFailed message)
        | none => .ok result.markup, database) := by
  unfold outcome execute
  rw [CommandRun.run_bind, CommandRun.run_liftExcept]
  cases content setting source with
  | error fault => rfl
  | ok script =>
      simp only [Except.bind]
      cases (Sandbox.executeFor setting.engine setting.limits script request.context).error <;> rfl

theorem outcome_setGlobal (kind : FragmentKind) (source : ContentSource) :
    (Command.setGlobal kind source).outcome setting database =
      (put setting ⟨.global, kind⟩ source).run database :=
  rfl

theorem outcome_setResource (id : ResourceId) (source : ContentSource) :
    (Command.setResource id source).outcome setting database =
      (put setting ⟨.resource id, .serverScript⟩ source).run database :=
  rfl

theorem outcome_setRules (text : String) :
    (Command.setRules text).outcome setting database =
      (.ok (Report.storedRules text), database.setRules text) :=
  rfl

theorem outcome_clearGlobal (kind : FragmentKind) :
    (Command.clearGlobal kind).outcome setting database =
      (.ok (Report.cleared (Report.globalLabel kind) (database.clear ⟨.global, kind⟩).1),
        (database.clear ⟨.global, kind⟩).2) :=
  rfl

theorem outcome_clearResource (id : ResourceId) :
    (Command.clearResource id).outcome setting database =
      (.ok (Report.clearedResource id (database.clear ⟨.resource id, .serverScript⟩).1),
        (database.clear ⟨.resource id, .serverScript⟩).2) :=
  rfl

/-- The rules are read before they are cleared: rules that cannot be read stay. -/
theorem outcome_clearRules :
    Command.clearRules.outcome setting database =
      match database.rules with
      | .ok text => (.ok (Report.cleared "condition rules" (!text.isEmpty)), database.setRules "")
      | .error fault => (.error (.store fault), database) := by
  unfold outcome execute
  rw [CommandRun.run_bind, CommandRun.run_reading]
  cases database.rules <;> rfl

theorem outcome_list (format : String) :
    (Command.list format).outcome setting database =
      ((database.list.mapError CommandFault.store).bind fun records => listAs records format,
        database) := by
  unfold outcome execute
  rw [CommandRun.run_bind, CommandRun.run_reading]
  cases database.list with
  | error fault => rfl
  | ok records => exact CommandRun.run_liftExcept database (listAs records format)

end Command

end PageInjection
