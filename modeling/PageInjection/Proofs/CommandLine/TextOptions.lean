import PageInjection.Proofs.CommandLine.Accepted
import PageInjection.Proofs.CommandLine.Spelling

/-!
# The options for a text

A text is taken from a file, or from a word.  A level that has the two options for this, next
to others that have nothing to do with the text, reads words with one place for the text only
where they name one of the two, once.
-/

namespace PageInjection

open Level (optionName?)

namespace ContentSource

/-- What is said to name a source is a file or a text, and not both. -/
theorem isSome_file_draft_ne (source : ContentSource) :
    source.draft.file.isSome ≠ source.draft.content.isSome := by
  cases source <;> simp [draft]

theorem content_draft_eq_some_iff {source : ContentSource} {text : String} :
    source.draft.content = some text ↔ source = .inline text := by
  cases source <;> simp [draft]

end ContentSource

namespace ContentDraft

variable {draft next : ContentDraft} {words given : List String} {source : ContentSource}

/-- Whether a word names one of the two options for a text. -/
def IsNamedBy (word : String) : Prop :=
  ∃ option ∈ options, optionName? word = some option.name

instance (word : String) : Decidable (IsNamedBy word) :=
  inferInstanceAs (Decidable (∃ option ∈ options, optionName? word = some option.name))

/-- Words that say one of the two options, once and with a value that it takes, and do not
name any of them besides.  The draft is what is said. -/
def IsGivenOnce (draft : ContentDraft) (words : List String) : Prop :=
  ∃ option ∈ options, ∃ value before given after, words = before ++ given ++ after ∧
    option.Says value given ∧ option.take value {} = .ok draft ∧
    ∀ word ∈ before ++ after, ¬IsNamedBy word

theorem not_isNamedBy_of_says {option : OptionShape ContentDraft} {value : String}
    (said : option.Says value given) (known : option ∈ options) :
    ∃ word more, given = word :: more ∧ IsNamedBy word ∧ ∀ word ∈ more, ¬IsNamedBy word := by
  have noValue : ∀ option ∈ options, '=' ∉ option.name.toList := by decide
  obtain ⟨word, more, rfl, about, unnamed⟩ := said.exists_cons (noValue option known)
  refine ⟨word, more, rfl, ⟨option, known, about⟩, fun word member => ?_⟩
  rintro ⟨other, _, aboutOther⟩
  exact nomatch (unnamed word member).symm.trans aboutOther

theorem IsGivenOnce.countP_eq (once : draft.IsGivenOnce words) :
    words.countP (fun word => IsNamedBy word) = 1 := by
  obtain ⟨option, known, value, before, given, after, rfl, said, _, unnamed⟩ := once
  obtain ⟨word, more, rfl, named, unnamedMore⟩ := not_isNamedBy_of_says said known
  have none {words : List String} (unnamed : ∀ word ∈ words, ¬IsNamedBy word) :
      words.countP (fun word => IsNamedBy word) = 0 :=
    List.countP_eq_zero.mpr fun word member => by simpa using unnamed word member
  have noneBefore := none fun word member => unnamed word (List.mem_append_left _ member)
  have noneAfter := none fun word member => unnamed word (List.mem_append_right _ member)
  simp only [List.countP_append, List.countP_cons, noneBefore, noneAfter, none unnamedMore, named]
  rfl

/-- Words around others that name no option for the text. -/
theorem IsGivenOnce.behind (once : draft.IsGivenOnce words) {lead : List String}
    (unnamed : ∀ word ∈ lead, ¬IsNamedBy word) : draft.IsGivenOnce (lead ++ words) := by
  obtain ⟨option, known, value, before, given, after, rfl, said, taken, others⟩ := once
  refine ⟨option, known, value, lead ++ before, given, after, by simp, said, taken, ?_⟩
  intro word member
  simp only [List.mem_append, or_assoc] at member
  rcases member with inLead | inBefore | inAfter
  · exact unnamed word inLead
  · exact others word (List.mem_append_left _ inBefore)
  · exact others word (List.mem_append_right _ inAfter)

/-- A draft has a source exactly when it is what is said to name that source. -/
theorem source_eq_ok_iff : draft.source given = .ok source ↔ draft = source.draft := by
  obtain ⟨file, content⟩ := draft
  cases file <;> cases content <;> cases source <;>
    simp [ContentDraft.source, ContentSource.draft, eq_comm]

/-- A draft has what an option with a name gives. -/
def Holds (draft : ContentDraft) (name : String) : Prop :=
  name = "file" ∧ draft.file.isSome = true ∨ name = "content" ∧ draft.content.isSome = true

theorem holds_of_take {part : OptionShape ContentDraft} (member : part ∈ options) {text : String}
    (taken : part.take text draft = .ok next) : next.Holds part.name := by
  simp only [options, List.mem_cons, List.not_mem_nil, or_false] at member
  obtain rfl | rfl := member
  · simp only [fileOption, OptionShape.path] at taken ⊢
    split at taken
    · exact nomatch taken
    · cases taken
      exact .inl ⟨rfl, rfl⟩
  · cases taken
    exact .inr ⟨rfl, rfl⟩

theorem Holds.take {name : String} (holds : draft.Holds name) {part : OptionShape ContentDraft}
    (member : part ∈ options) {text : String} (taken : part.take text draft = .ok next) :
    next.Holds name := by
  simp only [options, List.mem_cons, List.not_mem_nil, or_false] at member
  obtain rfl | rfl := member
  · simp only [fileOption, OptionShape.path] at taken
    split at taken
    · exact nomatch taken
    · cases taken
      exact holds.imp_left fun isFile => ⟨isFile.1, rfl⟩
  · cases taken
    exact holds.imp_right fun isContent => ⟨isContent.1, rfl⟩

/-- A text is taken from one place only. -/
theorem Holds.unique {name other : String} (holds : draft.Holds name) (also : draft.Holds other)
    (sourced : draft.source given = .ok source) : name = other := by
  obtain rfl := source_eq_ok_iff.mp sourced
  cases source <;> simp_all [Holds, ContentSource.draft]

end ContentDraft

/-- Words say an option by its name and the value it takes. -/
theorem OptionShape.Says.congr {δ ε : Type} {option : OptionShape δ} {other : OptionShape ε}
    {value : String} {words : List String} (said : option.Says value words)
    (name : option.name = other.name) (kind : option.value = other.value) :
    other.Says value words := by
  cases said with
  | switch isSwitch => exact name ▸ .switch (kind ▸ isSwitch)
  | attached _ takesValue => exact name ▸ .attached value (kind ▸ takesValue)
  | apart takesValue free => exact name ▸ .apart (kind ▸ takesValue) free

namespace Level

open OptionShape (SaysAll)
open LevelReading (takeAll takeAll_cons_eq_ok_iff takeAll_append_eq_ok_iff takeAll_of_giveAll
  pairwise_of_giveAll)

variable {δ : Type} {level : Level δ} {get : δ → ContentDraft} {option : OptionShape δ}
  {sayings : List (OptionShape δ × String)} {draft taken : δ} {last : LevelReading δ}
  {source : ContentSource}

/-- An option of a level that is an option for the text, on a part of its drafts. -/
structure IsContentOption (get : δ → ContentDraft) (option : OptionShape δ)
    (part : OptionShape ContentDraft) : Prop where
  member : part ∈ ContentDraft.options
  name : option.name = part.name
  value : option.value = part.value
  once : option.repeats = false
  take : ∀ text draft next, option.take text draft = .ok next →
    part.take text (get draft) = .ok (get next)

/-- An option of a level that has nothing to do with the text. -/
structure IsOtherOption (get : δ → ContentDraft) (option : OptionShape δ) : Prop where
  name : ∀ part ∈ ContentDraft.options, option.name ≠ part.name
  take : ∀ text draft next, option.take text draft = .ok next → get next = get draft

/-- A level that takes a text, for one part of its drafts. -/
structure TakesContent (level : Level δ) (get : δ → ContentDraft) : Prop where
  bare : level.commands = []
  noFree : level.freeWord = none
  noValue : ∀ option ∈ level.options, '=' ∉ option.name.toList
  options : ∀ option ∈ level.options,
    (∃ part, IsContentOption get option part) ∨ IsOtherOption get option

theorem isContentOption_onPart {put : ContentDraft → δ → δ}
    (get_put : ∀ content draft, get (put content draft) = content)
    {part : OptionShape ContentDraft} (member : part ∈ ContentDraft.options) :
    IsContentOption get (part.onPart get put) part where
  member := member
  name := rfl
  value := rfl
  once := (by decide : ∀ part ∈ ContentDraft.options, part.repeats = false) part member
  take text draft next taken := by
    cases found : part.take text (get draft) with
    | error fault => simp [OptionShape.onPart, found, Except.map] at taken
    | ok content =>
        simp only [OptionShape.onPart, found, Except.map, Except.ok.injEq] at taken
        rw [← taken, get_put]

/-- An option for another part of the drafts. -/
theorem isOtherOption_onPart {ε : Type} {getOther : δ → ε} {put : ε → δ → δ}
    (get_put : ∀ other draft, get (put other draft) = get draft) {part : OptionShape ε}
    (name : ∀ content ∈ ContentDraft.options, part.name ≠ content.name) :
    IsOtherOption get (part.onPart getOther put) where
  name := name
  take text draft next taken := by
    cases found : part.take text (getOther draft) with
    | error fault => simp [OptionShape.onPart, found, Except.map] at taken
    | ok other =>
        simp only [OptionShape.onPart, found, Except.map, Except.ok.injEq] at taken
        rw [← taken, get_put]

/-- Options for the text leave what they set. -/
theorem TakesContent.keeps (takes : level.TakesContent get) {P : ContentDraft → Prop}
    (kept : ∀ part ∈ ContentDraft.options, ∀ text content next, part.take text content = .ok next →
      P content → P next)
    (known : ∀ saying ∈ sayings, saying.1 ∈ level.options)
    (all : takeAll draft sayings = .ok taken) (before : P (get draft)) : P (get taken) := by
  induction sayings generalizing draft with
  | nil => cases all; exact before
  | cons saying sayings ih =>
      obtain ⟨member, knownLater⟩ := List.forall_mem_cons.mp known
      obtain ⟨next, step, later⟩ := takeAll_cons_eq_ok_iff.mp all
      refine ih knownLater later ?_
      obtain ⟨part, content⟩ | other := takes.options saying.1 member
      · exact kept part content.member _ _ _ (content.take _ _ _ step) before
      · rwa [other.take _ _ _ step]

/-- Options that are not for the text leave it as it is. -/
theorem TakesContent.get_of_others (takes : level.TakesContent get)
    (known : ∀ saying ∈ sayings, saying.1 ∈ level.options)
    (others : ∀ saying ∈ sayings, ∀ part, ¬IsContentOption get saying.1 part)
    (all : takeAll draft sayings = .ok taken) : get taken = get draft := by
  induction sayings generalizing draft with
  | nil => cases all; rfl
  | cons saying sayings ih =>
      obtain ⟨member, knownLater⟩ := List.forall_mem_cons.mp known
      obtain ⟨notHere, notLater⟩ := List.forall_mem_cons.mp others
      obtain ⟨next, step, later⟩ := takeAll_cons_eq_ok_iff.mp all
      rw [ih knownLater notLater later]
      obtain ⟨part, content⟩ | other := takes.options saying.1 member
      · exact absurd content (notHere part)
      · exact other.take _ _ _ step

/-- What an option for the text gives is there in the end. -/
theorem TakesContent.holds (takes : level.TakesContent get) {saying : OptionShape δ × String}
    (member : saying ∈ sayings) {part : OptionShape ContentDraft}
    (content : IsContentOption get saying.1 part)
    (known : ∀ saying ∈ sayings, saying.1 ∈ level.options)
    (all : takeAll draft sayings = .ok taken) : (get taken).Holds part.name := by
  obtain ⟨before, after, rfl⟩ := List.append_of_mem member
  obtain ⟨first, _, rest⟩ := takeAll_append_eq_ok_iff.mp all
  obtain ⟨second, step, later⟩ := takeAll_cons_eq_ok_iff.mp rest
  have kept : ∀ other ∈ ContentDraft.options, ∀ text content next,
      other.take text content = .ok next → content.Holds part.name → next.Holds part.name :=
    fun other member _ _ _ took holds => holds.take member took
  have here : (get second).Holds part.name :=
    ContentDraft.holds_of_take content.member (content.take _ _ _ step)
  exact takes.keeps kept (fun other inAfter => known other (by simp [inAfter])) later here

theorem TakesContent.not_isNamedBy (takes : level.TakesContent get) {words : List String}
    (said : SaysAll sayings words) (known : ∀ saying ∈ sayings, saying.1 ∈ level.options)
    (others : ∀ saying ∈ sayings, ∀ part, ¬IsContentOption get saying.1 part) :
    ∀ word ∈ words, ¬ContentDraft.IsNamedBy word := by
  rintro word member ⟨part, isPart, about⟩
  obtain ⟨saying, said, named⟩ := said.exists_of_optionName?
    (fun saying said => takes.noValue _ (known saying said)) member about
  obtain ⟨content, isContent⟩ | other := takes.options saying.1 (known saying said)
  · exact others saying said content isContent
  · exact other.name part isPart named

/-- Where the text is taken from one place, a single option is for it: a second one would have
the name of the first, and none of them repeats. -/
theorem TakesContent.exists_single (takes : level.TakesContent get) {reading : LevelReading δ}
    {given : List String} {saying : OptionShape δ × String} {part : OptionShape ContentDraft}
    (known : ∀ saying ∈ sayings, saying.1 ∈ level.options)
    (gives : reading.giveAll sayings = .ok last)
    (sourced : (get last.draft).source given = .ok source) (member : saying ∈ sayings)
    (content : IsContentOption get saying.1 part) :
    ∃ before after, sayings = before ++ saying :: after ∧
      (∀ other ∈ before, ∀ part, ¬IsContentOption get other.1 part) ∧
      ∀ other ∈ after, ∀ part, ¬IsContentOption get other.1 part := by
  have all : takeAll reading.draft sayings = .ok last.draft := takeAll_of_giveAll gives
  have sameName : ∀ other ∈ sayings, ∀ part, IsContentOption get other.1 part →
      other.1.name = saying.1.name := by
    intro other otherMember otherPart otherContent
    rw [otherContent.name, content.name]
    exact (takes.holds otherMember otherContent known all).unique
      (takes.holds member content known all) sourced
  obtain ⟨before, after, rfl⟩ := List.append_of_mem member
  obtain ⟨_, pairsAfter, pairsAcross⟩ := List.pairwise_append.mp (pairwise_of_giveAll gives)
  refine ⟨before, after, rfl, fun other inBefore otherPart otherContent => ?_,
    fun other inAfter otherPart otherContent => ?_⟩
  · have repeats := pairsAcross other inBefore saying List.mem_cons_self
      (sameName other (by simp [inBefore]) otherPart otherContent)
    simp [content.once] at repeats
  · have repeats := (List.pairwise_cons.mp pairsAfter).1 other inAfter
      (sameName other (by simp [inAfter]) otherPart otherContent).symm
    simp [otherContent.once] at repeats

/-- Words that such a level reads, with one place for the text in the end, name this place
once. -/
theorem TakesContent.isGivenOnce (takes : level.TakesContent get) {words given : List String}
    (empty : get draft = {}) (read : level.readAll draft words = .ok last)
    (sourced : (get last.draft).source given = .ok source) :
    (get last.draft).IsGivenOnce words := by
  obtain ⟨sayings, lead, rest, said, rfl, isRest, gives, known⟩ :=
    exists_saysAll_of_readAll takes.bare takes.noFree read
  have all : takeAll draft sayings = .ok last.draft := takeAll_of_giveAll gives
  by_cases isSaid : ∃ saying ∈ sayings, ∃ part, IsContentOption get saying.1 part
  · obtain ⟨saying, member, part, content⟩ := isSaid
    obtain ⟨before, after, rfl, othersBefore, othersAfter⟩ :=
      takes.exists_single known gives sourced member content
    have knownBefore : ∀ other ∈ before, other.1 ∈ level.options :=
      fun other inBefore => known other (by simp [inBefore])
    have knownAfter : ∀ other ∈ after, other.1 ∈ level.options :=
      fun other inAfter => known other (by simp [inAfter])
    obtain ⟨first, took, later⟩ := takeAll_append_eq_ok_iff.mp all
    obtain ⟨second, step, tookAfter⟩ := takeAll_cons_eq_ok_iff.mp later
    have firstEmpty := takes.get_of_others knownBefore othersBefore took
    have lastSame := takes.get_of_others knownAfter othersAfter tookAfter
    obtain ⟨wordsBefore, _, rfl, saidBefore, saidLater⟩ := said.exists_append
    cases saidLater with
    | @cons option value words wordsAfter _ here saidAfter =>
        refine ⟨part, content.member, value, wordsBefore, words, wordsAfter ++ rest, by simp,
          here.congr content.name content.value, ?_, ?_⟩
        · rw [lastSame, ← empty, ← firstEmpty]
          exact content.take _ _ _ step
        · intro word member
          rcases List.mem_append.mp member with inBefore | inLater
          · exact takes.not_isNamedBy saidBefore knownBefore othersBefore word inBefore
          rcases List.mem_append.mp inLater with inAfter | inRest
          · exact takes.not_isNamedBy saidAfter knownAfter othersAfter word inAfter
          · obtain rfl | rfl := isRest
            · exact absurd inRest List.not_mem_nil
            · obtain rfl := List.mem_singleton.mp inRest
              decide
  · have unsaid := takes.get_of_others known (by simpa using isSaid) all
    rw [unsaid, empty] at sourced
    exact nomatch sourced

end Level

end PageInjection
