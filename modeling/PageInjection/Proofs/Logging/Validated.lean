import PageInjection.Proofs.Items
import PageInjection.Proofs.Logging.Directive
import PageInjection.Proofs.Program.Quiet

/-!
# Using validated settings of the log

Validation looks at the format, the output and the level of the log, but not at the levels of
single modules.  Settings that are valid therefore lead to a log exactly when each module and
its level make a directive, or when the level switches everything off and no module is looked
at.  Then only the log file can be in the way; otherwise the log cannot be opened.
-/

namespace PageInjection

theorem LogVariables.ofEnvironment_unset {environment : Environment}
    (unset : ∀ name ∈ LogVariables.names, environment.get? name = none) :
    LogVariables.ofEnvironment environment = {} := by
  rw [LogVariables.ofEnvironment, unset _ (by decide), unset _ (by decide), unset _ (by decide),
    unset _ (by decide)]

namespace LoggingSettings

variable {settings : LoggingSettings}

/-- A module and its level make a directive. -/
def MakesDirective (module : String × String) : Prop :=
  ∃ directive, LogDirective.parse (module.1.toList ++ '=' :: module.2.toList) = .ok directive

/-- The levels of the modules can be used, or nobody looks at them. -/
def HasUsableModules (settings : LoggingSettings) : Prop :=
  settings.level = "off" ∨ ∀ module ∈ settings.modules, MakesDirective module

/-- What valid settings say of the format and the output can be used. -/
theorem exists_words_of_validate (valid : settings.validate = .ok ()) :
    (∃ format, LogFormat.ofWord settings.format = .ok format) ∧
      ∃ targets, LogTargets.ofWord settings.output = .ok targets := by
  unfold validate at valid
  cases format : LogFormat.ofWord settings.format with
  | error reason => rw [format] at valid; cases valid
  | ok format =>
      cases targets : LogTargets.ofWord settings.output with
      | error reason => rw [format, targets] at valid; cases valid
      | ok targets => exact ⟨⟨_, rfl⟩, _, rfl⟩

end LoggingSettings

namespace LogPlan

open LoggingSettings (MakesDirective)

variable {settings : LoggingSettings}

theorem moduleDirective_of_ok {lead : String} {name level : List Char} {directive : LogDirective}
    (read : LogDirective.parse (name ++ '=' :: level) = .ok directive) :
    moduleDirective lead name level = .ok directive := by
  rw [moduleDirective, read]

theorem moduleDirective_of_error {lead : String} {name level : List Char} {reason : DirectiveFault}
    (read : LogDirective.parse (name ++ '=' :: level) = .error reason) :
    moduleDirective lead name level = .error (.configuration (lead ++ reason.message)) := by
  rw [moduleDirective, read]

theorem exists_ownDirectives_eq_iff :
    (∃ directives, ownDirectives settings = .ok directives) ↔
      ∀ module ∈ settings.modules, MakesDirective module := by
  rw [ownDirectives, exists_mapM_eq_ok_iff]
  refine forall₂_congr fun ⟨name, level⟩ _ => ?_
  unfold MakesDirective
  cases read : LogDirective.parse (name.toList ++ '=' :: level.toList) with
  | ok directive => exact iff_of_true ⟨directive, moduleDirective_of_ok read⟩ ⟨directive, rfl⟩
  | error reason => simp [moduleDirective_of_error read]

/-- Modules whose levels cannot be used fail as one of them does. -/
theorem exists_of_ownDirectives_eq_error {fault : CommandFault}
    (fails : ownDirectives settings = .error fault) :
    ∃ module ∈ settings.modules, ∃ reason,
      LogDirective.parse (module.1.toList ++ '=' :: module.2.toList) = .error reason ∧
        fault = .configuration ("Invalid log directive: " ++ reason.message) := by
  obtain ⟨⟨name, level⟩, member, failed⟩ := exists_of_mapM_eq_error fails
  refine ⟨(name, level), member, ?_⟩
  cases read : LogDirective.parse (name.toList ++ '=' :: level.toList) with
  | ok directive => simp [moduleDirective_of_ok read] at failed
  | error reason =>
      refine ⟨reason, rfl, ?_⟩
      simpa [moduleDirective_of_error read, eq_comm] using failed

theorem filterOf_unset (settings : LoggingSettings) :
    filterOf settings {} =
      if settings.level = "off" then .ok (.parseLossy "off")
      else (ownDirectives settings).map fun own => own.foldl LogFilter.add
        (.parseLossy settings.level) := by
  have outer : outerDirectives "" = .ok [] := rfl
  simp only [filterOf, outerFilter?, Option.bind_none, Option.getD_none, outer]
  split
  · rfl
  · cases ownDirectives settings with
    | error fault => rfl
    | ok own => simp [Except.map, bind, Except.bind, pure, Except.pure]

theorem exists_filterOf_eq_iff :
    (∃ filter, filterOf settings {} = .ok filter) ↔ settings.HasUsableModules := by
  rw [filterOf_unset, LoggingSettings.HasUsableModules, ← exists_ownDirectives_eq_iff]
  by_cases off : settings.level = "off"
  · simp [off]
  · cases ownDirectives settings <;> simp [off, Except.map]

/-- A filter that cannot be made fails as one of the modules does. -/
theorem exists_of_filterOf_eq_error {fault : CommandFault}
    (fails : filterOf settings {} = .error fault) :
    ∃ module ∈ settings.modules, ∃ reason,
      LogDirective.parse (module.1.toList ++ '=' :: module.2.toList) = .error reason ∧
        fault = .configuration ("Invalid log directive: " ++ reason.message) := by
  rw [filterOf_unset] at fails
  split at fails
  · exact nomatch fails
  · cases own : ownDirectives settings with
    | ok directives => simp [own, Except.map] at fails
    | error other =>
        obtain rfl : other = fault := by simpa [own, Except.map] using fails
        exact exists_of_ownDirectives_eq_error own

theorem make_unset (enabled : settings.enabled = true) {format : LogFormat} {targets : LogTargets}
    (formatted : LogFormat.ofWord settings.format = .ok format)
    (targeted : LogTargets.ofWord settings.output = .ok targets) :
    make settings {} = (filterOf settings {}).map fun filter =>
      some { filter, format, targets, colored := settings.color && !targets.file } := by
  simp only [make, enabled, formatOf, targetsOf, Option.bind_none, Option.getD_none, formatted,
    targeted]
  cases filterOf settings {} <;> rfl

end LogPlan

namespace Program

open LoggingSettings (HasUsableModules MakesDirective)

variable {settings : LoggingSettings} {host : Host}

theorem openLog_of_make_error {fault : CommandFault}
    (fails : LogPlan.make settings (.ofEnvironment host.environment) = .error fault) :
    openLog Host.surroundings settings host = (.error fault, host) := by
  unfold openLog
  rw [Host.bind_eq (Settings.environment_surroundings host), fails]
  rfl

/-- A log that is planned goes wrong with its file or not at all. -/
theorem openFile_of_openLog_error {plan : LogPlan} {fault : CommandFault} {after : Host}
    (planned : LogPlan.make settings (.ofEnvironment host.environment) = .ok (some plan))
    (fails : openLog Host.surroundings settings host = (.error fault, after)) :
    plan.targets.file = true ∧
      openFile Host.surroundings settings host = (.error fault, after) := by
  unfold openLog at fails
  rw [Host.bind_eq (Settings.environment_surroundings host), planned] at fails
  dsimp only at fails
  split at fails
  · rename_i toFile
    rcases opened : openFile Host.surroundings settings host with ⟨file | file, last⟩
    · rw [Host.bind_eq opened] at fails
      obtain ⟨same, rfl⟩ := Prod.mk.inj fails
      obtain rfl := Except.error.inj same
      exact ⟨toFile, rfl⟩
    · rw [Host.bind_eq opened] at fails
      exact nomatch (Prod.mk.inj fails).1
  · exact nomatch (Prod.mk.inj fails).1

/-- Settings of a log that is switched on are valid, and the environment says nothing about
the log.  Format and output can always be used.  The filter can be used, and nothing but the
log file can be in the way of the log, exactly when the levels of the modules can be used;
otherwise the log cannot be opened, for one of the modules.  A module whose name has no
equals sign and no bracket has a level that can be used exactly when the name starts like a
target and the level is one; where `LogDirective.parse` is an approximation, so is this. -/
theorem validated_settings_are_used_iff (enabled : settings.enabled = true)
    (valid : settings.validate = .ok ())
    (unset : ∀ name ∈ LogVariables.names, host.environment.get? name = none) :
    (∃ format, LogPlan.formatOf settings (.ofEnvironment host.environment) = .ok format) ∧
    (∃ targets, LogPlan.targetsOf settings (.ofEnvironment host.environment) = .ok targets) ∧
    ((∃ filter, LogPlan.filterOf settings (.ofEnvironment host.environment) = .ok filter) ↔
      settings.HasUsableModules) ∧
    (settings.HasUsableModules → ∀ fault after,
      openLog Host.surroundings settings host = (.error fault, after) →
        openFile Host.surroundings settings host = (.error fault, after)) ∧
    (¬ settings.HasUsableModules → ∃ module ∈ settings.modules, ∃ reason,
      LogDirective.parse (module.1.toList ++ '=' :: module.2.toList) = .error reason ∧
        openLog Host.surroundings settings host =
          (.error (.configuration ("Invalid log directive: " ++ reason.message)), host)) ∧
    ∀ name level : String, '=' ∉ name.toList → '[' ∉ name.toList →
      (MakesDirective (name, level) ↔
        (∃ c rest, Text.trimLeft name.toList = c :: rest ∧ LogDirective.startsTarget c = true) ∧
          IsLevel (Text.trimRight level.toList)) := by
  obtain ⟨⟨format, formatted⟩, targets, targeted⟩ := LoggingSettings.exists_words_of_validate valid
  have made := LogPlan.make_unset enabled formatted targeted
  rw [← LogVariables.ofEnvironment_unset unset] at made
  refine ⟨⟨format, ?_⟩, ⟨targets, ?_⟩, ?_, ?_, ?_, ?_⟩
  · rw [LogVariables.ofEnvironment_unset unset]
    simp [LogPlan.formatOf, formatted]
  · rw [LogVariables.ofEnvironment_unset unset]
    simp [LogPlan.targetsOf, targeted]
  · rw [LogVariables.ofEnvironment_unset unset]
    exact LogPlan.exists_filterOf_eq_iff
  · intro usable fault after fails
    obtain ⟨filter, filtered⟩ := LogPlan.exists_filterOf_eq_iff.mpr usable
    rw [← LogVariables.ofEnvironment_unset unset] at filtered
    rw [filtered] at made
    exact (openFile_of_openLog_error made fails).2
  · intro unusable
    rw [← LogPlan.exists_filterOf_eq_iff, ← LogVariables.ofEnvironment_unset unset] at unusable
    cases filtered : LogPlan.filterOf settings (.ofEnvironment host.environment) with
    | ok filter => exact absurd ⟨filter, filtered⟩ unusable
    | error fault =>
        rw [filtered] at made
        rw [LogVariables.ofEnvironment_unset unset] at filtered
        obtain ⟨module, member, reason, read, rfl⟩ := LogPlan.exists_of_filterOf_eq_error filtered
        exact ⟨module, member, reason, read, openLog_of_make_error made⟩
  · intro name level noValue noSpan
    exact LogDirective.exists_parse_eq_iff noValue noSpan level.toList

/-- A log that goes to a file, with a level in capitals, a level in a number and a level of
nothing: only the file can be in the way. -/
theorem validated_settings_are_used_of_three_modules :
    let settings : LoggingSettings :=
      { output := "file", modules := [("store", "DEBUG"), ("pipeline", "5"), ("rules", "")] }
    let host : Host := { environment := ⟨[("HOME", "/home/ann")]⟩ }
    settings.enabled = true ∧ settings.validate = .ok () ∧
      (∀ name ∈ LogVariables.names, host.environment.get? name = none) ∧
      settings.HasUsableModules ∧
      (∃ filter, LogPlan.filterOf settings (.ofEnvironment host.environment) = .ok filter) ∧
      ∀ fault after, openLog Host.surroundings settings host = (.error fault, after) →
        openFile Host.surroundings settings host = (.error fault, after) := by
  intro settings host
  have valid : settings.validate = .ok () := rfl
  have unset : ∀ name ∈ LogVariables.names, host.environment.get? name = none := by decide
  have usable : settings.HasUsableModules :=
    .inr (List.forall_mem_cons.mpr ⟨⟨_, rfl⟩, List.forall_mem_cons.mpr ⟨⟨_, rfl⟩,
      List.forall_mem_singleton.mpr ⟨_, rfl⟩⟩⟩)
  obtain ⟨_, _, filtered, opened, _⟩ := validated_settings_are_used_iff rfl valid unset
  exact ⟨rfl, valid, unset, usable, filtered.mpr usable, opened usable⟩

/-- Settings that are valid, although the level of a module is none and the log cannot be
opened. -/
theorem loud_module_is_valid_and_unusable :
    let settings : LoggingSettings := { modules := [("store", "loud")] }
    settings.enabled = true ∧ settings.validate = .ok () ∧
      (∀ name ∈ LogVariables.names, ({} : Environment).get? name = none) ∧
      LogPlan.filterOf settings (.ofEnvironment {}) =
        .error (.configuration ("Invalid log directive: error parsing level filter: " ++
          "expected one of \"off\", \"error\", \"warn\", \"info\", \"debug\", \"trace\", " ++
          "or a number 0-5")) := by
  exact ⟨rfl, rfl, by decide, rfl⟩

end Program

end PageInjection
