import Mathlib.Data.List.TakeDrop
import PageInjection.CommandLine.Level

/-!
# Options in words

An option is said in words: a switch by its name, any other with its value behind an equals
sign or as a word of its own.  A level to which nothing but options is said takes one after
the other, each with its value.
-/

namespace PageInjection

variable {δ : Type}

namespace OptionShape

/-- Words that say an option with a value.  A value as a word of its own must not look like
an option; a switch has the empty value. -/
inductive Says (option : OptionShape δ) : String → List String → Prop where
  | switch : option.value = none → Says option "" ["--" ++ option.name]
  | attached {kind : String} (value : String) : option.value = some kind →
      Says option value ["--" ++ option.name ++ "=" ++ value]
  | apart {kind value : String} : option.value = some kind →
      (∀ c rest, value.toList ≠ '-' :: c :: rest) → Says option value ["--" ++ option.name, value]

/-- Words that say options with their values, one after the other. -/
inductive SaysAll : List (OptionShape δ × String) → List String → Prop where
  | nil : SaysAll [] []
  | cons {option : OptionShape δ} {value : String} {words more : List String}
      {sayings : List (OptionShape δ × String)} : option.Says value words →
      SaysAll sayings more → SaysAll ((option, value) :: sayings) (words ++ more)

theorem SaysAll.append {sayings others : List (OptionShape δ × String)}
    {words more : List String} (said : SaysAll sayings words) (also : SaysAll others more) :
    SaysAll (sayings ++ others) (words ++ more) := by
  induction said with
  | nil => exact also
  | cons first later ih => exact List.append_assoc .. ▸ .cons first ih

theorem Says.onPart {ε : Type} {option : OptionShape δ} {value : String} {words : List String}
    (said : option.Says value words) (get : ε → δ) (put : δ → ε → ε) :
    (option.onPart get put).Says value words := by
  cases said with
  | switch isSwitch => exact .switch isSwitch
  | attached _ takesValue => exact .attached value takesValue
  | apart takesValue free => exact .apart takesValue free

end OptionShape

namespace LevelReading

variable {option : OptionShape δ} {value : String} {reading settled next : LevelReading δ}
  {sayings : List (OptionShape δ × String)}

/-- Give options with their values, one after the other. -/
def giveAll (reading : LevelReading δ) (sayings : List (OptionShape δ × String)) :
    Except UsageFault (LevelReading δ) :=
  sayings.foldlM (fun reading saying => reading.give saying.1 saying.2) reading

theorem giveAll_cons (gives : reading.give option value = .ok next)
    (sayings : List (OptionShape δ × String)) :
    reading.giveAll ((option, value) :: sayings) = next.giveAll sayings := by
  rw [giveAll, List.foldlM_cons, gives]
  rfl

theorem giveAll_append (gives : reading.giveAll sayings = .ok next)
    (others : List (OptionShape δ × String)) :
    reading.giveAll (sayings ++ others) = next.giveAll others := by
  rw [giveAll, List.foldlM_append, ← giveAll, gives]
  rfl

theorem giveAll_cons_eq_ok_iff {last : LevelReading δ} :
    reading.giveAll ((option, value) :: sayings) = .ok last ↔
      ∃ next, reading.give option value = .ok next ∧ next.giveAll sayings = .ok last := by
  rw [giveAll, List.foldlM_cons]
  cases reading.give option value <;> simp [giveAll, bind, Except.bind]

/-- An option that is given has changed the draft, and its name is noted. -/
theorem exists_take_of_give (gives : reading.give option value = .ok next) :
    ∃ draft, option.take value reading.draft = .ok draft ∧
      next = { reading with draft, given := reading.given ++ [option.name] } := by
  unfold give at gives
  split at gives
  · exact nomatch gives
  · split at gives
    · rename_i draft taken
      exact ⟨draft, taken, (Except.ok.inj gives).symm⟩
    · exact nomatch gives
    · exact nomatch gives

theorem not_pending_of_give (settles : settled.pending = none)
    (gives : settled.give option value = .ok next) : next.pending = none := by
  obtain ⟨draft, _, rfl⟩ := exists_take_of_give gives
  exact settles

theorem settle_of_not_pending (settles : reading.pending = none) :
    reading.settle = .ok reading := by
  rw [settle, settles]

theorem not_pending_of_settle (settles : reading.settle = .ok settled) :
    settled.pending = none := by
  unfold settle at settles
  split at settles
  · cases settles
    assumption
  · exact nomatch settles
  · exact not_pending_of_give rfl settles

end LevelReading

namespace Level

open OptionShape (Says SaysAll)

variable {level : Level δ} {option : OptionShape δ} {reading settled next : LevelReading δ}

/-- A level knows an option: it finds it under its name, and its name can be written. -/
structure Knows (level : Level δ) (option : OptionShape δ) : Prop where
  found : level.options.find? (·.name == option.name) = some option
  isNamed : option.name.toList ≠ []
  notHelp : option.name ≠ helpWord
  noValue : '=' ∉ option.name.toList

/-- What is in front of the first equals sign, where there is one. -/
theorem span_name {name rest : List Char} (noValue : '=' ∉ name)
    (valued : rest = [] ∨ ∃ value, rest = '=' :: value) :
    (name ++ rest).span (· != '=') = (name, rest) := by
  have inName : ∀ c ∈ name, (c != '=') = true := by
    intro c member
    exact bne_iff_ne.mpr fun same => noValue (same ▸ member)
  rw [List.span_eq_takeWhile_dropWhile, List.takeWhile_append_of_pos inName,
    List.dropWhile_append_of_pos inName]
  rcases valued with rfl | ⟨value, rfl⟩ <;> simp

theorem splitValue_alone {name : String} (noValue : '=' ∉ name.toList) :
    splitValue name.toList = (name, none) := by
  have split := span_name noValue (.inl rfl)
  rw [List.append_nil] at split
  simp only [splitValue, split, String.ofList_toList]

theorem splitValue_attached {name : String} (noValue : '=' ∉ name.toList) (value : String) :
    splitValue (name.toList ++ '=' :: value.toList) = (name, some value) := by
  simp only [splitValue, span_name noValue (.inr ⟨value.toList, rfl⟩), String.ofList_toList]

/-- A word that names a command ends the level. -/
theorem readWords_command (settles : reading.pending = none) {word : String}
    (named : level.namesCommand word = true) (rest : List String) :
    level.readWords reading false (word :: rest) = .ok (reading, some (word, rest)) := by
  have awaitsNone : reading.awaitsValue = false := by simp [LevelReading.awaitsValue, settles]
  rw [readWords, awaitsNone, named]
  rfl

/-- A word with the name of an option behind two lines is read as an option. -/
theorem readWords_long (bare : level.commands = []) {word : String} {text : List Char}
    (isLong : word.toList = '-' :: '-' :: text) (named : text ≠ []) (rest : List String) :
    level.readWords reading false (word :: rest) =
      (level.takeLong reading text).bind fun reading => level.readWords reading false rest := by
  obtain ⟨c, text, rfl⟩ := List.exists_cons_of_ne_nil named
  have noCommand : level.namesCommand word = false := by simp [namesCommand, bare]
  rw [readWords, noCommand, Bool.and_false, isLong]
  rfl

/-- A word behind an option that awaits its value is that value, unless it looks like an
option. -/
theorem readWords_value (awaits : reading.pending = some (option, none)) {value : String}
    (free : ∀ c rest, value.toList ≠ '-' :: c :: rest) (rest : List String) :
    level.readWords reading false (value :: rest) =
      level.readWords { reading with pending := some (option, some value) } false rest := by
  have awaitsValue : reading.awaitsValue = true := by simp [LevelReading.awaitsValue, awaits]
  rw [readWords, awaitsValue]
  split
  · contradiction
  · split
    · rename_i isDashes
      exact absurd isDashes (free _ _)
    · rename_i isLong
      exact absurd isLong (free _ _)
    · rename_i isShort
      exact absurd isShort (free _ _)
    · simp [awaits]

/-- The words of an option are read past, and what they give is there as soon as the
reading is settled. -/
theorem readWords_said (bare : level.commands = []) (settles : reading.settle = .ok settled)
    (knows : level.Knows option) {value : String} {words : List String}
    (said : option.Says value words) (gives : settled.give option value = .ok next)
    (rest : List String) :
    ∃ behind : LevelReading δ, behind.settle = .ok next ∧
      level.readWords reading false (words ++ rest) = level.readWords behind false rest := by
  have idle := LevelReading.not_pending_of_settle settles
  have given := LevelReading.settle_of_not_pending (LevelReading.not_pending_of_give idle gives)
  cases said with
  | switch isSwitch =>
      refine ⟨next, given, ?_⟩
      have taken : level.takeLong reading option.name.toList = .ok next := by
        rw [takeLong, splitValue_alone knows.noValue]
        simp only [knows.notHelp, if_false, knows.found, isSwitch, settles]
        exact gives
      rw [List.singleton_append,
        readWords_long bare (String.toList_append ..) knows.isNamed, taken]
      rfl
  | attached _ takesValue =>
      refine ⟨next, given, ?_⟩
      have taken : level.takeLong reading (option.name.toList ++ '=' :: value.toList) =
          .ok next := by
        rw [takeLong, splitValue_attached knows.noValue]
        simp only [knows.notHelp, if_false, knows.found, takesValue, settles]
        exact gives
      have isLong : ("--" ++ option.name ++ "=" ++ value).toList =
          '-' :: '-' :: (option.name.toList ++ '=' :: value.toList) := by
        simp [String.toList_append]
      rw [List.singleton_append, readWords_long bare isLong (by simp), taken]
      rfl
  | apart takesValue free =>
      refine ⟨{ settled with pending := some (option, some value) }, ?_, ?_⟩
      · rw [LevelReading.settle, ← gives, ← idle]
      · have taken : level.takeLong reading option.name.toList =
            .ok { settled with pending := some (option, none) } := by
          rw [takeLong, splitValue_alone knows.noValue]
          simp only [knows.notHelp, if_false, knows.found, takesValue, settles]
          rfl
        rw [List.cons_append, List.singleton_append,
          readWords_long bare (String.toList_append ..) knows.isNamed, taken]
        exact readWords_value rfl free rest

/-- A level to which known options are said reads them one after the other. -/
theorem readAll_said (bare : level.commands = []) {draft : δ}
    {sayings : List (OptionShape δ × String)} {words : List String} (said : SaysAll sayings words)
    (knows : ∀ saying ∈ sayings, level.Knows saying.1) {result : LevelReading δ}
    (gives : LevelReading.giveAll { draft } sayings = .ok result) :
    level.readAll draft words = .ok result := by
  suffices reads : ∀ {reading settled : LevelReading δ}, reading.settle = .ok settled →
      settled.giveAll sayings = .ok result →
      ∃ behind : LevelReading δ, behind.settle = .ok result ∧
        level.readWords reading false words = .ok (behind, none) by
    obtain ⟨behind, settles, read⟩ := reads (LevelReading.settle_of_not_pending rfl) gives
    rw [readAll, read]
    exact settles
  clear gives
  induction said with
  | nil =>
      intro reading settled settles gives
      cases gives
      exact ⟨reading, settles, by rw [readWords]⟩
  | @cons option value words more sayings first later ih =>
      intro reading settled settles gives
      obtain ⟨hereKnown, laterKnown⟩ := List.forall_mem_cons.mp knows
      obtain ⟨next, step, rest⟩ := LevelReading.giveAll_cons_eq_ok_iff.mp gives
      obtain ⟨behind, settlesNext, read⟩ := readWords_said bare settles hereKnown first step more
      obtain ⟨last, settlesLast, readLast⟩ := ih laterKnown settlesNext rest
      exact ⟨last, settlesLast, read.trans readLast⟩

end Level

end PageInjection
