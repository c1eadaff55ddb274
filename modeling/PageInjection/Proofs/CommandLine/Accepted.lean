import PageInjection.CommandLine
import PageInjection.Proofs.CommandLine.Options

/-!
# What accepted words say

Words that are read, up to the name of a command or to their end, say options with their
values, one after the other, and nothing else.  What is read is what these options give.
-/

namespace PageInjection

variable {δ : Type}

namespace Level

open OptionShape (Says SaysAll)

variable {level : Level δ} {option : OptionShape δ} {reading settled behind last : LevelReading δ}

theorem eq_of_splitValue {text : List Char} {name : String} {value? : Option String}
    (split : splitValue text = (name, value?)) :
    text = name.toList ++ (value?.map fun value => '=' :: value.toList).getD [] := by
  unfold splitValue at split
  rw [List.span_eq_takeWhile_dropWhile] at split
  have whole : text.takeWhile (· != '=') ++ text.dropWhile (· != '=') = text :=
    List.takeWhile_append_dropWhile
  have marked := List.head?_dropWhile_not (· != '=') text
  cases dropped : text.dropWhile (· != '=') with
  | nil =>
      rw [dropped, List.append_nil] at whole
      rw [dropped] at split
      obtain ⟨rfl, rfl⟩ := Prod.mk.inj split
      simp [whole]
  | cons c value =>
      rw [dropped] at whole marked split
      obtain ⟨rfl, rfl⟩ := Prod.mk.inj split
      obtain rfl : c = '=' := by simpa using marked
      simp [whole]

/-- How a word behind two lines is taken: as a switch, as an option with its value, or as an
option whose value is still to come. -/
inductive IsTaken (settled : LevelReading δ) (option : OptionShape δ) :
    List Char → LevelReading δ → Prop where
  | switch {next : LevelReading δ} : option.value = none → settled.give option "" = .ok next →
      IsTaken settled option option.name.toList next
  | attached {kind value : String} {next : LevelReading δ} : option.value = some kind →
      settled.give option value = .ok next →
      IsTaken settled option (option.name.toList ++ '=' :: value.toList) next
  | awaiting {kind : String} : option.value = some kind →
      IsTaken settled option option.name.toList { settled with pending := some (option, none) }

theorem exists_isTaken {text : List Char} {next : LevelReading δ}
    (taken : level.takeLong reading text = .ok next) :
    ∃ settled, reading.settle = .ok settled ∧ ∃ option ∈ level.options,
      IsTaken settled option text next := by
  unfold takeLong at taken
  cases split : splitValue text with
  | mk name value? =>
      obtain rfl := eq_of_splitValue split
      rw [split] at taken
      dsimp only at taken
      split at taken
      · cases value? with
        | some value => exact nomatch taken
        | none => cases settles : reading.settle <;> simp [settles, bind, Except.bind] at taken
      · cases found : level.options.find? (·.name == name) with
        | none => simp [found] at taken
        | some option =>
            have member := List.mem_of_find?_eq_some found
            obtain rfl : option.name = name := by simpa using List.find?_some found
            rw [found] at taken
            dsimp only at taken
            cases settles : reading.settle with
            | error fault =>
                rw [settles] at taken
                rcases kind : option.value with _ | kindName <;> rcases value? with _ | value <;>
                  simp [kind, bind, Except.bind] at taken
            | ok settled =>
                rw [settles] at taken
                refine ⟨settled, rfl, option, member, ?_⟩
                rcases kind : option.value with _ | kindName <;> rcases value? with _ | value <;>
                  rw [kind] at taken
                · simpa using IsTaken.switch kind taken
                · exact nomatch taken
                · obtain rfl := Except.ok.inj taken
                  simpa using IsTaken.awaiting kind
                · exact .attached kind taken

theorem takeShort_ne_ok (reading : LevelReading δ) (c : Char) (next : LevelReading δ) :
    takeShort reading c ≠ .ok next := by
  unfold takeShort
  split
  · cases reading.settle <;> exact nofun
  · exact nofun

theorem takeFree_ne_ok (noFree : level.freeWord = none) (reading : LevelReading δ)
    (isTrailing : Bool) (word : String) (next : LevelReading δ) :
    level.takeFree reading isTrailing word ≠ .ok next := by
  unfold takeFree
  rw [noFree]
  dsimp only
  split
  · exact nofun
  · split <;> exact nofun

/-- Behind two lines there is nothing, where free words are not taken. -/
theorem eq_of_readWords_trailing (noFree : level.freeWord = none) {words : List String}
    {next : Option (String × List String)}
    (read : level.readWords reading true words = .ok (behind, next)) :
    words = [] ∧ behind = reading ∧ next = none := by
  cases words with
  | nil =>
      obtain ⟨rfl, rfl⟩ := Prod.mk.inj (Except.ok.inj read)
      exact ⟨rfl, rfl, rfl⟩
  | cons word words =>
      rw [readWords] at read
      cases taken : level.takeFree reading true word with
      | ok next => exact absurd taken (takeFree_ne_ok noFree _ _ _ _)
      | error fault => rw [taken] at read; cases read

/-- The words behind the options of a level: the name of a command and all that follows it,
or nothing but perhaps two lines. -/
def IsLeft (level : Level δ) : Option (String × List String) → List String → Prop
  | some (name, after), rest => level.namesCommand name = true ∧ rest = name :: after
  | none, rest => rest = [] ∨ rest = ["--"]

/-- From a settled reading, words say options of the level and then `next` is left, and what
the options give is the last reading. -/
def Reads (level : Level δ) (next : Option (String × List String))
    (last settled : LevelReading δ) (words : List String) : Prop :=
  ∃ sayings lead rest, SaysAll sayings lead ∧ words = lead ++ rest ∧ level.IsLeft next rest ∧
    settled.giveAll sayings = .ok last ∧ ∀ saying ∈ sayings, saying.1 ∈ level.options

theorem IsLeft.reads {next : Option (String × List String)} {rest : List String}
    (isLeft : level.IsLeft next rest) : level.Reads next last last rest :=
  ⟨[], [], rest, .nil, rfl, isLeft, rfl, by simp⟩

theorem Reads.cons {next : Option (String × List String)} {words more : List String}
    {given : LevelReading δ} {value : String} (known : option ∈ level.options)
    (said : option.Says value words) (gives : settled.give option value = .ok given)
    (later : level.Reads next last given more) : level.Reads next last settled (words ++ more) := by
  obtain ⟨sayings, lead, rest, saidAll, rfl, isLeft, givesAll, members⟩ := later
  refine ⟨(option, value) :: sayings, words ++ lead, rest, .cons said saidAll,
    (List.append_assoc ..).symm, isLeft, ?_, List.forall_mem_cons.mpr ⟨known, members⟩⟩
  rw [LevelReading.giveAll_cons gives, givesAll]

/-- The same from any reading: options that were read before are settled first, and a value
that is awaited comes as the next word. -/
structure ReadsOn (level : Level δ) (next : Option (String × List String))
    (last reading : LevelReading δ) (words : List String) : Prop where
  ready : reading.awaitsValue = false →
    ∃ settled, reading.settle = .ok settled ∧ level.Reads next last settled words
  awaiting : ∀ option, reading.pending = some (option, none) →
    ∃ value more, words = value :: more ∧ (∀ c rest, value.toList ≠ '-' :: c :: rest) ∧
      ∃ settled, { reading with pending := some (option, some value) }.settle = .ok settled ∧
        level.Reads next last settled more

/-- Where options end, no value is awaited. -/
theorem IsLeft.readsOn {next : Option (String × List String)} {rest : List String}
    (isLeft : level.IsLeft next rest) (ends : reading.settle = .ok last) :
    level.ReadsOn next last reading rest := by
  refine ⟨fun _ => ⟨last, ends, isLeft.reads⟩, fun option awaits => ?_⟩
  simp [LevelReading.settle, awaits] at ends

theorem IsTaken.reads {word : String} {next : Option (String × List String)}
    {words : List String} {text : List Char} {given : LevelReading δ}
    (taken : IsTaken settled option text given) (isLong : word.toList = '-' :: '-' :: text)
    (known : option ∈ level.options) (idle : settled.pending = none)
    (later : level.ReadsOn next last given words) :
    level.Reads next last settled (word :: words) := by
  have given {value : String} {given : LevelReading δ}
      (gives : settled.give option value = .ok given)
      (later : level.ReadsOn next last given words) :
      level.Reads next last given words := by
    have unpending := LevelReading.not_pending_of_give idle gives
    obtain ⟨_, settles, reads⟩ :=
      later.ready (by simp [LevelReading.awaitsValue, unpending])
    rw [LevelReading.settle_of_not_pending unpending] at settles
    exact Except.ok.inj settles ▸ reads
  cases taken with
  | switch isSwitch gives =>
      obtain rfl : word = "--" ++ option.name := String.toList_inj.mp (by simp [isLong])
      exact .cons known (.switch isSwitch) gives (given gives later)
  | attached takesValue gives =>
      rename_i kind value
      obtain rfl : word = "--" ++ option.name ++ "=" ++ value :=
        String.toList_inj.mp (by simp [isLong])
      exact .cons known (.attached value takesValue) gives (given gives later)
  | awaiting takesValue =>
      obtain rfl : word = "--" ++ option.name := String.toList_inj.mp (by simp [isLong])
      obtain ⟨value, more, rfl, free, given, settles, reads⟩ := later.awaiting option rfl
      have gives : settled.give option value = .ok given := by
        rw [LevelReading.settle] at settles
        rwa [← idle] at settles
      exact .cons known (.apart takesValue free) gives reads

/-- Words that are read say options. -/
theorem readsOn_of_readWords (noFree : level.freeWord = none) {words : List String}
    {next : Option (String × List String)}
    (read : level.readWords reading false words = .ok (behind, next))
    (ends : behind.settle = .ok last) : level.ReadsOn next last reading words := by
  -- Each word either is the value that is awaited, or comes when none is: one of the two
  -- fields of what follows holds for want of a case.
  induction words generalizing reading with
  | nil =>
      obtain ⟨rfl, rfl⟩ := Prod.mk.inj (Except.ok.inj read)
      exact IsLeft.readsOn (.inl rfl) ends
  | cons word words ih =>
      rw [readWords] at read
      split at read
      · rename_i isCommand
        obtain ⟨rfl, rfl⟩ := Prod.mk.inj (Except.ok.inj read)
        exact IsLeft.readsOn ⟨(Bool.and_eq_true_iff.mp isCommand).2, rfl⟩ ends
      · split at read
        · rename_i isMark
          obtain ⟨rfl, rfl, rfl⟩ := eq_of_readWords_trailing noFree read
          obtain rfl : word = "--" := String.toList_inj.mp isMark
          exact IsLeft.readsOn (.inr rfl) ends
        · rename_i text _ isLong
          cases found : level.takeLong reading text with
          | error fault => rw [found] at read; cases read
          | ok next =>
              rw [found] at read
              obtain ⟨settled, settles, option, known, taken⟩ := exists_isTaken found
              have idle := LevelReading.not_pending_of_settle settles
              refine ⟨fun _ => ⟨settled, settles, ?_⟩, fun option awaits => ?_⟩
              · exact taken.reads isLong known idle (ih read)
              · simp [LevelReading.settle, awaits] at settles
        · rename_i c _ _ _ _
          cases found : takeShort reading c with
          | error fault => rw [found] at read; cases read
          | ok next => exact absurd found (takeShort_ne_ok _ _ _)
        · rename_i plain
          split at read
          · rename_i option awaits
            refine ⟨fun ready => ?_, fun other awaitsOther => ?_⟩
            · simp [LevelReading.awaitsValue, awaits] at ready
            · obtain rfl : option = other := by simpa [awaits] using awaitsOther
              exact ⟨word, words, rfl, plain, (ih read).ready rfl⟩
          · cases found : level.takeFree reading false word with
            | error fault => rw [found] at read; cases read
            | ok next => exact absurd found (takeFree_ne_ok noFree _ _ _ _)

/-- The words of a level that no other command follows say what is read, up to two lines at
the end. -/
theorem exists_saysAll_of_readAll (bare : level.commands = []) (noFree : level.freeWord = none)
    {draft : δ} {words : List String} (read : level.readAll draft words = .ok last) :
    ∃ sayings lead rest, SaysAll sayings lead ∧ words = lead ++ rest ∧
      (rest = [] ∨ rest = ["--"]) ∧ LevelReading.giveAll { draft } sayings = .ok last ∧
      ∀ saying ∈ sayings, saying.1 ∈ level.options := by
  unfold readAll at read
  cases found : level.readWords { draft } false words with
  | error fault => exact nomatch found ▸ read
  | ok result =>
      obtain ⟨behind, next⟩ := result
      rw [found] at read
      obtain ⟨settled, idle, sayings, lead, rest, said, isWords, isLeft, gives, known⟩ :=
        (readsOn_of_readWords noFree found read).ready rfl
      cases idle
      cases next with
      | none => exact ⟨sayings, lead, rest, said, isWords, isLeft, gives, known⟩
      | some next => simp [IsLeft, namesCommand, bare] at isLeft

end Level

namespace LevelReading

variable {sayings : List (OptionShape δ × String)} {reading last : LevelReading δ}

/-- Take options with their values, one after the other. -/
def takeAll (draft : δ) (sayings : List (OptionShape δ × String)) : Except ValueFault δ :=
  sayings.foldlM (fun draft saying => saying.1.take saying.2 draft) draft

theorem takeAll_cons_eq_ok_iff {saying : OptionShape δ × String} {draft taken : δ} :
    takeAll draft (saying :: sayings) = .ok taken ↔
      ∃ next, saying.1.take saying.2 draft = .ok next ∧ takeAll next sayings = .ok taken := by
  rw [takeAll, List.foldlM_cons]
  cases saying.1.take saying.2 draft <;> simp [takeAll, bind, Except.bind]

theorem takeAll_append_eq_ok_iff {others : List (OptionShape δ × String)} {draft taken : δ} :
    takeAll draft (sayings ++ others) = .ok taken ↔
      ∃ next, takeAll draft sayings = .ok next ∧ takeAll next others = .ok taken := by
  rw [takeAll, List.foldlM_append, ← takeAll]
  cases takeAll draft sayings <;> simp [takeAll, bind, Except.bind]

theorem takeAll_of_giveAll (gives : reading.giveAll sayings = .ok last) :
    takeAll reading.draft sayings = .ok last.draft := by
  induction sayings generalizing reading with
  | nil => cases gives; rfl
  | cons saying sayings ih =>
      obtain ⟨next, step, rest⟩ := giveAll_cons_eq_ok_iff.mp gives
      obtain ⟨draft, taken, rfl⟩ := exists_take_of_give step
      exact takeAll_cons_eq_ok_iff.mpr ⟨draft, taken, ih rest⟩

theorem repeats_of_give {option : OptionShape δ} {value : String} {next : LevelReading δ}
    (gives : reading.give option value = .ok next) (given : option.name ∈ reading.given) :
    option.repeats = true := by
  unfold give at gives
  split at gives
  · exact nomatch gives
  · rename_i accepted
    simpa [given] using accepted

theorem repeats_of_giveAll (gives : reading.giveAll sayings = .ok last) :
    ∀ saying ∈ sayings, saying.1.name ∈ reading.given → saying.1.repeats = true := by
  induction sayings generalizing reading with
  | nil => simp
  | cons saying sayings ih =>
      obtain ⟨next, step, later⟩ := giveAll_cons_eq_ok_iff.mp gives
      refine List.forall_mem_cons.mpr ⟨repeats_of_give step, fun other member given => ?_⟩
      obtain ⟨draft, _, rfl⟩ := exists_take_of_give step
      exact ih later other member (List.mem_append_left _ given)

/-- Only an option that repeats is given behind another of its name. -/
theorem pairwise_of_giveAll (gives : reading.giveAll sayings = .ok last) :
    sayings.Pairwise fun saying later => saying.1.name = later.1.name → later.1.repeats = true := by
  induction sayings generalizing reading with
  | nil => exact .nil
  | cons saying sayings ih =>
      obtain ⟨next, step, later⟩ := giveAll_cons_eq_ok_iff.mp gives
      refine .cons (fun other member same => ?_) (ih later)
      obtain ⟨draft, _, rfl⟩ := exists_take_of_give step
      exact repeats_of_giveAll later other member
        (List.mem_append_right _ (List.mem_singleton.mpr same.symm))

end LevelReading

namespace Invocation

open OptionShape (SaysAll)

/-- Words that say an invocation: options for the whole run, and then a command with the
words behind it. -/
structure IsSaid (invocation : Invocation) (words : List String)
    (sayings : List (OptionShape Invocation × String)) (command : List String) : Prop where
  words : ∃ lead, words = lead ++ command ∧ SaysAll sayings lead
  known : ∀ saying ∈ sayings, saying.1 ∈ level.options
  given : ∃ reading, LevelReading.giveAll { draft := { command := .list "text" } } sayings =
    .ok reading ∧ { reading.draft with command := invocation.command } = invocation
  command : ∃ name after, command = name :: after ∧
    Command.read name after = .ok invocation.command

/-- Words that are accepted say what they are accepted as. -/
theorem exists_isSaid {words : List String} {invocation : Invocation}
    (accepted : ofWords words = .ok invocation) :
    ∃ sayings command, invocation.IsSaid words sayings command := by
  unfold ofWords at accepted
  cases read : level.readWords { draft := { command := .list "text" } } false words with
  | error fault => exact nomatch read ▸ accepted
  | ok result =>
      obtain ⟨behind, next⟩ := result
      rw [read] at accepted
      simp only [bind, Except.bind] at accepted
      rcases next with _ | ⟨name, after⟩
      · cases settles : behind.settle <;> simp [settles] at accepted
      · dsimp only at accepted
        split at accepted
        · exact nomatch accepted
        · cases found : Command.read name after with
          | error fault => exact nomatch found ▸ accepted
          | ok command =>
              cases settles : behind.settle with
              | error fault => simp [found, settles] at accepted
              | ok last =>
                  simp only [found, settles] at accepted
                  cases accepted
                  obtain ⟨settled, idle, sayings, lead, rest, said, words, ⟨_, rfl⟩, gives,
                      known⟩ := (Level.readsOn_of_readWords rfl read settles).ready rfl
                  cases idle
                  exact ⟨sayings, name :: after, ⟨lead, words, said⟩, known, ⟨last, gives, rfl⟩,
                    name, after, rfl, found⟩

end Invocation

end PageInjection
