import PageInjection.Program
import PageInjection.Proofs.CommandLine.Accepted

/-!
# Asking for help

Help is answered instead of a command only where a word asks for it.
-/

namespace PageInjection

variable {δ α β : Type}

/-- A word that asks for help: the name of the command, or an option, of which the short
form may have anything behind it. -/
def AsksForHelp (word : String) : Prop :=
  word = Level.helpWord ∨ word = "--" ++ Level.helpWord ∨ ∃ rest, word.toList = '-' :: 'h' :: rest

/-- Where the answer is help, one of the words asked for it. -/
def IsAsked (words : List String) (answer : Except UsageFault α) : Prop :=
  answer = .error .help → ∃ word ∈ words, AsksForHelp word

namespace IsAsked

variable {words more : List String} {answer : Except UsageFault α}

theorem ok (value : α) : IsAsked words (.ok value) :=
  nofun

theorem error {fault : UsageFault} (notHelp : fault ≠ .help) :
    IsAsked words (.error fault : Except UsageFault α) :=
  fun same => absurd (Except.error.inj same) notHelp

theorem of_mem {word : String} (member : word ∈ words) (asks : AsksForHelp word) :
    IsAsked words answer :=
  fun _ => ⟨word, member, asks⟩

theorem mono (asked : IsAsked words answer) (subset : words ⊆ more) : IsAsked more answer := by
  intro isHelp
  obtain ⟨word, member, asks⟩ := asked isHelp
  exact ⟨word, subset member, asks⟩

theorem bind {next : α → Except UsageFault β} (first : IsAsked words answer)
    (later : ∀ value, answer = .ok value → IsAsked words (next value)) :
    IsAsked words (answer >>= next) := by
  cases answer with
  | ok value => exact later value rfl
  | error fault => exact fun isHelp => first (congrArg Except.error (Except.error.inj isHelp))

end IsAsked

theorem exists_of_bind_eq_ok {ε : Type} {answer : Except ε α} {next : α → Except ε β} {value : β}
    (answers : answer >>= next = .ok value) :
    ∃ first, answer = .ok first ∧ next first = .ok value := by
  cases answer with
  | error fault => exact nomatch answers
  | ok first => exact ⟨first, rfl, answers⟩

namespace LevelReading

variable {words : List String} {reading : LevelReading δ}

theorem give_isAsked (option : OptionShape δ) (value : String) :
    IsAsked words (reading.give option value) := by
  unfold give
  split
  · exact .error nofun
  · split
    · exact .ok _
    · exact .error nofun
    · exact .error nofun

theorem settle_isAsked : IsAsked words reading.settle := by
  unfold settle
  split
  · exact .ok _
  · exact .error nofun
  · exact give_isAsked _ _

end LevelReading

namespace Level

open LevelReading (give_isAsked settle_isAsked)

variable {level : Level δ} {reading behind : LevelReading δ} {words : List String}

theorem takeFree_isAsked (isTrailing : Bool) (word : String) :
    IsAsked words (level.takeFree reading isTrailing word) := by
  unfold takeFree
  split
  · exact settle_isAsked.bind fun _ _ => .ok _
  · split
    · exact .error nofun
    · split <;> exact .error nofun

theorem takeLong_isAsked {word : String} {text : List Char}
    (isLong : word.toList = '-' :: '-' :: text) (member : word ∈ words) :
    IsAsked words (level.takeLong reading text) := by
  unfold takeLong
  cases split : splitValue text with
  | mk name value? =>
      dsimp only
      split
      · rename_i isHelp
        cases value? with
        | some value => exact .error nofun
        | none =>
            have isText := eq_of_splitValue split
            refine .of_mem member (.inr (.inl (String.toList_inj.mp ?_)))
            simp [isLong, isText, isHelp]
      · split
        · exact .error nofun
        · split
          · exact .error nofun
          · exact settle_isAsked.bind fun _ _ => give_isAsked _ _
          · exact settle_isAsked.bind fun _ _ => give_isAsked _ _
          · exact settle_isAsked.bind fun _ _ => .ok _

theorem takeShort_isAsked {word : String} {c : Char} {rest : List Char}
    (isShort : word.toList = '-' :: c :: rest) (member : word ∈ words) :
    IsAsked words (takeShort reading c) := by
  unfold takeShort
  split
  · rename_i isHelp
    exact .of_mem member (.inr (.inr ⟨rest, isHelp ▸ isShort⟩))
  · exact .error nofun

theorem readWords_isAsked (isTrailing : Bool) :
    IsAsked words (level.readWords reading isTrailing words) := by
  suffices within : ∀ {more}, words ⊆ more →
      IsAsked more (level.readWords reading isTrailing words) from within (List.Subset.refl _)
  intro more
  induction words generalizing reading isTrailing with
  | nil =>
      intro _
      rw [readWords]
      exact .ok _
  | cons word words ih =>
      intro subset
      obtain ⟨member, subset⟩ := List.cons_subset.mp subset
      cases isTrailing with
      | true =>
          rw [readWords]
          exact (takeFree_isAsked true word).bind fun _ _ => ih _ subset
      | false =>
          rw [readWords]
          split
          · exact .ok _
          · split
            · exact ih _ subset
            · rename_i isLong
              exact (takeLong_isAsked isLong member).bind fun _ _ => ih _ subset
            · rename_i isShort
              exact (takeShort_isAsked isShort member).bind fun _ _ => ih _ subset
            · split
              · exact ih _ subset
              · exact (takeFree_isAsked false word).bind fun _ _ => ih _ subset

theorem readAll_isAsked (draft : δ) : IsAsked words (level.readAll draft words) :=
  (readWords_isAsked false).bind fun _ _ => settle_isAsked

/-- The name of the next command and what is behind it stand in the words of a level. -/
theorem subset_of_readWords {isTrailing : Bool} {name : String} {after : List String}
    (read : level.readWords reading isTrailing words = .ok (behind, some (name, after))) :
    name :: after ⊆ words := by
  induction words generalizing reading isTrailing with
  | nil => exact nomatch read
  | cons word words ih =>
      suffices later : ∃ reading isTrailing,
          level.readWords reading isTrailing words = .ok (behind, some (name, after)) ∨
            word :: words = name :: after by
        obtain ⟨_, _, read | isCommand⟩ := later
        · exact List.subset_cons_of_subset word (ih read)
        · exact isCommand ▸ List.Subset.refl _
      cases isTrailing with
      | true =>
          rw [readWords] at read
          obtain ⟨reading, _, read⟩ := exists_of_bind_eq_ok read
          exact ⟨reading, true, .inl read⟩
      | false =>
          rw [readWords] at read
          split at read
          · obtain ⟨rfl, isCommand⟩ := Prod.mk.inj (Except.ok.inj read)
            obtain ⟨rfl, rfl⟩ := Prod.mk.inj (Option.some.inj isCommand)
            exact ⟨reading, true, .inr rfl⟩
          · split at read
            · exact ⟨reading, true, .inl read⟩
            · obtain ⟨reading, _, read⟩ := exists_of_bind_eq_ok read
              exact ⟨reading, false, .inl read⟩
            · obtain ⟨reading, _, read⟩ := exists_of_bind_eq_ok read
              exact ⟨reading, false, .inl read⟩
            · split at read
              · exact ⟨_, false, .inl read⟩
              · obtain ⟨reading, _, read⟩ := exists_of_bind_eq_ok read
                exact ⟨reading, false, .inl read⟩

end Level

namespace Command

open Level (readAll_isAsked readWords_isAsked subset_of_readWords)

variable {words : List String}

theorem require_isAsked (value? : Option α) : IsAsked words (require value?) := by
  cases value? with
  | none => exact .error nofun
  | some value => exact .ok value

theorem source_isAsked (draft : ContentDraft) (given : List String) :
    IsAsked words (draft.source given) := by
  unfold ContentDraft.source
  split
  · exact .ok _
  · exact .ok _
  · exact .error nofun
  · refine .error ?_
    split <;> exact nofun

theorem readSetGlobal_isAsked (kind : FragmentKind) : IsAsked words (readSetGlobal kind words) :=
  (readAll_isAsked _).bind fun _ _ => (source_isAsked _ _).bind fun _ _ => .ok _

theorem readSet_isAsked (slot : String) : IsAsked words (readSet slot words) := by
  unfold readSet
  split
  · exact readSetGlobal_isAsked _
  · exact readSetGlobal_isAsked _
  · exact readSetGlobal_isAsked _
  · exact (readAll_isAsked _).bind fun _ _ => (source_isAsked _ _).bind fun _ _ =>
      (require_isAsked _).bind fun _ _ => .ok _
  · exact (readAll_isAsked _).bind fun _ _ => (require_isAsked _).bind fun _ _ => .ok _
  · exact .error nofun

theorem readClear_isAsked (slot : String) : IsAsked words (readClear slot words) := by
  unfold readClear
  split
  · exact (readAll_isAsked _).bind fun _ _ => .ok _
  · exact (readAll_isAsked _).bind fun _ _ => .ok _
  · exact (readAll_isAsked _).bind fun _ _ => .ok _
  · exact (readAll_isAsked _).bind fun _ _ => (require_isAsked _).bind fun _ _ => .ok _
  · exact (readAll_isAsked _).bind fun _ _ => .ok _
  · exact .error nofun

theorem readSlot_isAsked (about : String)
    {read : String → List String → Except UsageFault Command}
    (reads : ∀ slot words, IsAsked words (read slot words)) :
    IsAsked words (readSlot about read words) := by
  refine (readWords_isAsked false).bind fun ⟨reading, next⟩ found => ?_
  cases next with
  | none => exact LevelReading.settle_isAsked.bind fun _ _ => .error nofun
  | some next =>
      obtain ⟨slot, after⟩ := next
      obtain ⟨inWords, subset⟩ := List.cons_subset.mp (subset_of_readWords found)
      dsimp only
      split
      · rename_i isHelp
        exact .of_mem inWords (.inl isHelp)
      · exact (reads slot after).mono subset

theorem read_isAsked (name : String) : IsAsked words (read name words) := by
  unfold read
  split
  · exact (readAll_isAsked _).bind fun _ _ => .ok _
  · exact (readAll_isAsked _).bind fun _ _ => .ok _
  · exact (readAll_isAsked _).bind fun _ _ => (source_isAsked _ _).bind fun _ _ => .ok _
  · exact readSlot_isAsked _ fun slot _ => readSet_isAsked slot
  · exact readSlot_isAsked _ fun slot _ => readClear_isAsked slot
  · exact (readAll_isAsked _).bind fun _ _ => .ok _
  · exact .error nofun

end Command

namespace Invocation

/-- Words that are answered with help asked for it. -/
theorem ofWords_isAsked (words : List String) : IsAsked words (ofWords words) := by
  refine (Level.readWords_isAsked false).bind fun ⟨reading, next⟩ found => ?_
  cases next with
  | none =>
      refine LevelReading.settle_isAsked.bind fun reading _ => .error ?_
      split <;> exact nofun
  | some next =>
      obtain ⟨name, after⟩ := next
      obtain ⟨inWords, subset⟩ := List.cons_subset.mp (Level.subset_of_readWords found)
      dsimp only
      split
      · rename_i isHelp
        exact .of_mem inWords (.inl isHelp)
      · exact ((Command.read_isAsked name).mono subset).bind fun _ _ =>
          LevelReading.settle_isAsked.bind fun _ _ => .ok _

end Invocation

/-- A usage fault ends the run with the code for it, unless help was asked for. -/
theorem Outcome.exit_ofUsage {fault : UsageFault} (notHelp : fault ≠ .help) :
    (Outcome.ofUsage fault).exit = 2 := by
  cases fault with
  | help => exact absurd rfl notHelp
  | _ => rfl

end PageInjection
