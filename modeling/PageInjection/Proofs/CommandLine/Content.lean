import PageInjection.Program
import PageInjection.Proofs.Command.Outcome
import PageInjection.Proofs.CommandLine.Help
import PageInjection.Proofs.CommandLine.TextOptions

/-!
# The text of a fragment in words

The commands that need a text take it from one place: a file, or a word.  Words that are
accepted as such a command name exactly one of the two options, once, and that is what is
kept; all others are refused before anything is opened.
-/

namespace PageInjection

open Level (optionName?)

namespace ContentDraft

variable {draft : ContentDraft} {given : List String} {source : ContentSource}

/-- A draft with one place has the text that is found there. -/
theorem text_of_source (sourced : draft.source given = .ok source) (setting : CommandSetting) :
    draft.text setting = Command.content setting source := by
  rw [source_eq_ok_iff.mp sourced, Command.content]

end ContentDraft

namespace Level

/-- A level without options ends with its first word. -/
theorem eq_of_readWords {δ : Type} {level : Level δ} (noOptions : level.options = [])
    (noFree : level.freeWord = none) {draft : δ} {words : List String} {behind : LevelReading δ}
    {name : String} {after : List String}
    (read : level.readWords { draft } false words = .ok (behind, some (name, after))) :
    words = name :: after := by
  cases words with
  | nil => cases read
  | cons word words =>
      rw [readWords] at read
      split at read
      · obtain ⟨_, next⟩ := Prod.mk.inj (Except.ok.inj read)
        obtain ⟨rfl, rfl⟩ := Prod.mk.inj (Option.some.inj next)
        rfl
      · split at read
        · obtain ⟨_, _, same⟩ := eq_of_readWords_trailing noFree read
          cases same
        · obtain ⟨next, found, _⟩ := exists_of_bind_eq_ok read
          obtain ⟨_, _, option, member, _⟩ := exists_isTaken found
          exact absurd (noOptions ▸ member) List.not_mem_nil
        · obtain ⟨next, found, _⟩ := exists_of_bind_eq_ok read
          exact absurd found (takeShort_ne_ok _ _ _)
        · obtain ⟨next, found, _⟩ := exists_of_bind_eq_ok read
          exact absurd found (takeFree_ne_ok noFree _ _ _ _)

end Level

namespace Command

open Level (isContentOption_onPart isOtherOption_onPart)

variable {command : Command} {words : List String} {source : ContentSource}

theorem execLevel_takesContent : execLevel.TakesContent ExecDraft.content where
  bare := rfl
  noFree := rfl
  noValue := by decide
  options := by
    intro option member
    rcases List.mem_append.mp member with isContent | isRequest
    · obtain ⟨part, isPart, rfl⟩ := List.mem_map.mp isContent
      exact .inl ⟨part, isContentOption_onPart (fun _ _ => rfl) isPart⟩
    · obtain ⟨part, isPart, rfl⟩ := List.mem_map.mp isRequest
      have named : ∀ part ∈ RequestFlags.options, ∀ content ∈ ContentDraft.options,
          part.name ≠ content.name := by decide
      refine .inr (isOtherOption_onPart ?_ (named part isPart))
      exact fun _ _ => rfl

theorem setGlobalLevel_takesContent : setGlobalLevel.TakesContent id where
  bare := rfl
  noFree := rfl
  noValue := by decide
  options option member := by
    have once : ∀ part ∈ ContentDraft.options, part.repeats = false := by decide
    exact .inl ⟨option, member, rfl, rfl, once option member, fun _ _ _ taken => taken⟩

theorem setResourceLevel_takesContent : setResourceLevel.TakesContent ResourceDraft.content where
  bare := rfl
  noFree := rfl
  noValue := by decide
  options := by
    intro option member
    rcases List.mem_cons.mp member with rfl | isContent
    · refine .inr ⟨by decide, fun text draft next taken => ?_⟩
      simp only [idOption, OptionShape.id] at taken
      split at taken
      · cases taken
        rfl
      · exact nomatch taken
    · obtain ⟨part, isPart, rfl⟩ := List.mem_map.mp isContent
      exact .inl ⟨part, isContentOption_onPart (fun _ _ => rfl) isPart⟩

/-- The names of the commands that take a text. -/
def textCommands : List (List String) :=
  [["exec"], ["set", "style"], ["set", "script"], ["set", "server"], ["set", "resource"]]

/-- The names of such a command are words that are about no option. -/
theorem unnamed_of_mem_textCommands : ∀ path ∈ textCommands, path ≠ [] ∧
    ∀ word ∈ path, optionName? word = none := by
  decide

theorem mem_words_of_read {name : String} (read : Command.read name words = .ok command) :
    name ∈ Command.words := by
  unfold Command.read at read
  split at read
  · decide
  · decide
  · decide
  · decide
  · decide
  · decide
  · exact nomatch read

/-- A command that takes its text from a source, which its words name once. -/
def IsSourced (command : Command) (words : List String) : Prop :=
  ∃ source draft given, command.source? = some source ∧ draft.IsGivenOnce words ∧
    ContentDraft.source draft given = .ok source

theorem isSourced_of_readSetGlobal {kind : FragmentKind}
    (read : readSetGlobal kind words = .ok command) : command.IsSourced words := by
  obtain ⟨reading, found, read⟩ := exists_of_bind_eq_ok read
  obtain ⟨source, sourced, read⟩ := exists_of_bind_eq_ok read
  cases read
  exact ⟨source, reading.draft, reading.given, rfl,
    setGlobalLevel_takesContent.isGivenOnce rfl found sourced, sourced⟩

theorem isSourced_of_readSet {slot : String} (isPath : ["set", slot] ∈ textCommands)
    (read : readSet slot words = .ok command) : command.IsSourced words := by
  unfold readSet at read
  split at read
  · exact isSourced_of_readSetGlobal read
  · exact isSourced_of_readSetGlobal read
  · exact isSourced_of_readSetGlobal read
  · obtain ⟨reading, found, read⟩ := exists_of_bind_eq_ok read
    obtain ⟨source, sourced, read⟩ := exists_of_bind_eq_ok read
    obtain ⟨id, _, read⟩ := exists_of_bind_eq_ok read
    cases read
    exact ⟨source, reading.draft.content, reading.given, rfl,
      setResourceLevel_takesContent.isGivenOnce rfl found sourced, sourced⟩
  · exact absurd isPath (by decide)
  · exact nomatch read

theorem exists_slot_of_readSlot {about : String}
    {readBehind : String → List String → Except UsageFault Command}
    (read : readSlot about readBehind words = .ok command) :
    ∃ slot after, words = slot :: after ∧ readBehind slot after = .ok command := by
  obtain ⟨⟨reading, next⟩, found, read⟩ := exists_of_bind_eq_ok read
  cases next with
  | none =>
      obtain ⟨_, _, read⟩ := exists_of_bind_eq_ok read
      exact nomatch read
  | some next =>
      obtain ⟨slot, after⟩ := next
      dsimp only at read
      split at read
      · exact nomatch read
      · exact ⟨slot, after, Level.eq_of_readWords rfl rfl found, read⟩

/-- A command that is named as one that takes a text has one source for it. -/
theorem isSourced_of_read {path tail : List String} (isPath : path ∈ textCommands) {name : String}
    (named : name :: words = path ++ tail) (read : Command.read name words = .ok command) :
    command.IsSourced tail := by
  have isSet {slot : String} (isPath : ["set", slot] ∈ textCommands)
      (named : name :: words = ["set", slot] ++ tail) : command.IsSourced tail := by
    obtain ⟨rfl, rfl⟩ := List.cons.inj named
    obtain ⟨_, _, same, read⟩ := exists_slot_of_readSlot read
    obtain ⟨rfl, rfl⟩ := List.cons.inj same
    exact isSourced_of_readSet isPath read
  have paths := isPath
  simp only [textCommands, List.mem_cons, List.not_mem_nil, or_false] at paths
  obtain rfl | rfl | rfl | rfl | rfl := paths
  · obtain ⟨rfl, rfl⟩ := List.cons.inj named
    obtain ⟨reading, found, read⟩ := exists_of_bind_eq_ok read
    obtain ⟨source, sourced, read⟩ := exists_of_bind_eq_ok read
    cases read
    exact ⟨source, reading.draft.content, reading.given, rfl,
      execLevel_takesContent.isGivenOnce rfl found sourced, sourced⟩
  · exact isSet isPath named
  · exact isSet isPath named
  · exact isSet isPath named
  · exact isSet isPath named

theorem mem_textCommands_of_readSet {slot : String} (read : readSet slot words = .ok command)
    (sourced : command.source? = some source) : ["set", slot] ∈ textCommands := by
  unfold readSet at read
  split at read
  · decide
  · decide
  · decide
  · decide
  · obtain ⟨_, _, read⟩ := exists_of_bind_eq_ok read
    obtain ⟨_, _, read⟩ := exists_of_bind_eq_ok read
    cases read
    exact nomatch sourced
  · exact nomatch read

theorem source?_of_readClear {slot : String} (read : readClear slot words = .ok command) :
    command.source? = none := by
  unfold readClear at read
  split at read
  · obtain ⟨_, _, read⟩ := exists_of_bind_eq_ok read
    cases read
    rfl
  · obtain ⟨_, _, read⟩ := exists_of_bind_eq_ok read
    cases read
    rfl
  · obtain ⟨_, _, read⟩ := exists_of_bind_eq_ok read
    cases read
    rfl
  · obtain ⟨_, _, read⟩ := exists_of_bind_eq_ok read
    obtain ⟨_, _, read⟩ := exists_of_bind_eq_ok read
    cases read
    rfl
  · obtain ⟨_, _, read⟩ := exists_of_bind_eq_ok read
    cases read
    rfl
  · exact nomatch read

/-- A command with a source for a text was named as one. -/
theorem exists_path_of_read {name : String} (read : Command.read name words = .ok command)
    (sourced : command.source? = some source) :
    ∃ path ∈ textCommands, ∃ tail, name :: words = path ++ tail := by
  unfold Command.read at read
  split at read
  · obtain ⟨_, _, read⟩ := exists_of_bind_eq_ok read
    cases read
    exact nomatch sourced
  · obtain ⟨_, _, read⟩ := exists_of_bind_eq_ok read
    cases read
    exact nomatch sourced
  · exact ⟨["exec"], by decide, words, rfl⟩
  · obtain ⟨slot, after, rfl, readSlot⟩ := exists_slot_of_readSlot read
    exact ⟨["set", slot], mem_textCommands_of_readSet readSlot sourced, after, rfl⟩
  · obtain ⟨slot, after, rfl, readSlot⟩ := exists_slot_of_readSlot read
    exact nomatch (source?_of_readClear readSlot).symm.trans sourced
  · obtain ⟨_, _, read⟩ := exists_of_bind_eq_ok read
    cases read
    exact nomatch sourced
  · exact nomatch read

/-! ## The fault that never comes -/

section Missing

variable {setting : CommandSetting} {database : Database}

theorem error_ne_missing {α : Type} {reason : String} (starts : reason.toList.head? ≠ some 'E') :
    (.error (.invalidArgument reason) : Except CommandFault α) ≠ .error ContentDraft.missing := by
  intro same
  obtain rfl := CommandFault.invalidArgument.inj (Except.error.inj same)
  exact starts rfl

theorem content_ne_missing (source : ContentSource) :
    Command.content setting source ≠ .error ContentDraft.missing := by
  cases source with
  | inline text => simp
  | file path =>
      rw [content_file]
      cases setting.readFile path with
      | ok text => exact nofun
      | error fault =>
          have starts : ("Failed to read " ++ path ++ ": " ++ fault.message).toList.head? ≠
              some 'E' := by simp
          exact error_ne_missing starts

theorem run_put_ne_missing (slot : Slot) (source : ContentSource) :
    ((put setting slot source).run database).1 ≠ .error ContentDraft.missing := by
  cases found : content setting source with
  | error fault =>
      rw [run_put_of_fault database slot found]
      exact found ▸ content_ne_missing source
  | ok text =>
      unfold put
      rw [CommandRun.run_bind, CommandRun.run_liftExcept, found]
      simp only [CommandRun.run_modify_bind, CommandRun.run_reading_bind_pure]
      cases (database.put setting.now ⟨slot.kind, slot.scope, text⟩).record slot <;> exact nofun

/-- No command asks for a text that was not given. -/
theorem outcome_ne_missing (command : Command) :
    (command.outcome setting database).1 ≠ .error ContentDraft.missing := by
  cases command with
  | render point showErrors request => exact nofun
  | check rules request =>
      cases rules with
      | some rules => exact nofun
      | none =>
          rw [outcome_check_stored]
          cases database.rules <;> exact nofun
  | exec source request =>
      rw [outcome_exec]
      cases found : content setting source with
      | error fault =>
          intro same
          cases same
          exact content_ne_missing source found
      | ok script =>
          simp only [Except.bind]
          split <;> exact nofun
  | setGlobal kind source => exact run_put_ne_missing _ source
  | setResource id source => exact run_put_ne_missing _ source
  | setRules text => exact nofun
  | clearGlobal kind => exact nofun
  | clearResource id => exact nofun
  | clearRules =>
      rw [outcome_clearRules]
      cases database.rules <;> exact nofun
  | list format =>
      rw [outcome_list]
      cases database.list with
      | error fault => exact nofun
      | ok records =>
          simp only [Except.mapError, Except.bind]
          unfold listAs
          split
          · exact nofun
          · exact nofun
          · exact error_ne_missing (by simp)

end Missing

end Command

namespace Invocation

open OptionShape (SaysAll AreApart)

variable {words lead tail path : List String} {invocation : Invocation}
  {sayings : List (OptionShape Invocation × String)}

theorem level_areApart : AreApart level.options where
  names := by decide
  noValue := by decide

/-- Options for the whole run do not name the options for the text. -/
theorem not_isNamedBy_of_saysAll (said : SaysAll sayings lead)
    (known : ∀ saying ∈ sayings, saying.1 ∈ level.options) :
    ∀ word ∈ lead, ¬ContentDraft.IsNamedBy word := by
  rintro word member ⟨part, isPart, about⟩
  obtain ⟨saying, said, named⟩ := said.exists_of_optionName?
    (fun saying said => level_areApart.noValue _ (known saying said)) member about
  have apart : ∀ option ∈ level.options, ∀ part ∈ ContentDraft.options,
      option.name ≠ part.name := by decide
  exact apart _ (known saying said) part isPart named

/-- Words that name a command with a text, and are accepted, name its source once. -/
theorem isSourced_of_ofWords (said : SaysAll sayings lead)
    (known : ∀ saying ∈ sayings, saying.1 ∈ level.options) (isPath : path ∈ Command.textCommands)
    (accepted : ofWords (lead ++ path ++ tail) = .ok invocation) :
    invocation.command.IsSourced tail := by
  obtain ⟨others, command, ⟨⟨otherLead, same, otherSaid⟩, otherKnown, _,
    ⟨name, after, rfl, read⟩⟩⟩ := exists_isSaid accepted
  obtain ⟨command, slots, rfl⟩ :=
    List.exists_cons_of_ne_nil (Command.unnamed_of_mem_textCommands path isPath).1
  have unnamed : optionName? command = none :=
    (Command.unnamed_of_mem_textCommands _ isPath).2 _ List.mem_cons_self
  have otherUnnamed : optionName? name = none :=
    (by decide : ∀ name ∈ Command.words, optionName? name = none) name
      (Command.mem_words_of_read read)
  rw [List.append_assoc, List.cons_append] at same
  have named := said.unique level_areApart otherSaid known otherKnown unnamed otherUnnamed same
  exact Command.isSourced_of_read isPath named.symm read

/-- Accepted words with a text are options for the whole run, the names of a command, and
words that name a source once. -/
theorem exists_isGivenOnce {source : ContentSource} (accepted : ofWords words = .ok invocation)
    (sourced : invocation.command.source? = some source) :
    ∃ draft given, draft.IsGivenOnce words ∧ ContentDraft.source draft given = .ok source := by
  obtain ⟨sayings, command, ⟨⟨lead, rfl, said⟩, known, _, ⟨name, after, rfl, read⟩⟩⟩ :=
    exists_isSaid accepted
  obtain ⟨path, isPath, tail, named⟩ := Command.exists_path_of_read read sourced
  obtain ⟨found, draft, given, isSource, once, takes⟩ := Command.isSourced_of_read isPath named read
  obtain rfl : found = source := Option.some.inj (isSource.symm.trans sourced)
  refine ⟨draft, given, ?_, takes⟩
  rw [named]
  refine (once.behind fun word member => ?_).behind (not_isNamedBy_of_saysAll said known)
  rintro ⟨option, _, about⟩
  exact nomatch ((Command.unnamed_of_mem_textCommands path isPath).2 word member).symm.trans about

end Invocation

namespace Program

open OptionShape (SaysAll)

end Program

end PageInjection
