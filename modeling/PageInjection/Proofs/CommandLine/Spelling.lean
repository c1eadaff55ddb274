import Mathlib.Data.List.Nodup
import PageInjection.Proofs.CommandLine.Options

/-!
# Words of options

Each option is said by a first word with its name and at most one more, which is about no
option.  So words say options of a level in one way only, and where an option is not said
there is no word with its name.
-/

namespace PageInjection

variable {δ : Type}

namespace Level

/-- The name of the option a word is about, if it is about one. -/
def optionName? (word : String) : Option String :=
  match word.toList with
  | '-' :: '-' :: text => some (splitValue text).1
  | _ => none

theorem optionName?_alone {name : String} (noValue : '=' ∉ name.toList) :
    optionName? ("--" ++ name) = some name := by
  have isLong : ("--" ++ name).toList = '-' :: '-' :: name.toList := by simp
  rw [optionName?, isLong]
  exact congrArg (some ·.1) (splitValue_alone noValue)

theorem optionName?_attached {name : String} (noValue : '=' ∉ name.toList) (value : String) :
    optionName? ("--" ++ name ++ "=" ++ value) = some name := by
  have isLong : ("--" ++ name ++ "=" ++ value).toList =
      '-' :: '-' :: (name.toList ++ '=' :: value.toList) := by simp
  rw [optionName?, isLong]
  exact congrArg (some ·.1) (splitValue_attached noValue value)

/-- A value as a word of its own is about no option. -/
theorem optionName?_value {value : String} (free : ∀ c rest, value.toList ≠ '-' :: c :: rest) :
    optionName? value = none := by
  unfold optionName?
  split
  · rename_i isLong
    exact absurd isLong (free _ _)
  · rfl

end Level

namespace OptionShape

open Level (optionName? optionName?_alone optionName?_attached optionName?_value)

variable {option other : OptionShape δ} {value otherValue : String}
  {words otherWords rest otherRest : List String}
  {sayings others : List (OptionShape δ × String)}

/-- What words that say an option look like. -/
theorem Says.exists_cons (said : option.Says value words) (noValue : '=' ∉ option.name.toList) :
    ∃ word more, words = word :: more ∧ optionName? word = some option.name ∧
      ∀ word ∈ more, optionName? word = none := by
  cases said with
  | switch _ => exact ⟨_, [], rfl, optionName?_alone noValue, by simp⟩
  | attached _ _ => exact ⟨_, [], rfl, optionName?_attached noValue value, by simp⟩
  | apart _ free =>
      exact ⟨_, [value], rfl, optionName?_alone noValue, by simp [optionName?_value free]⟩

/-- The first word decides how many words say an option. -/
theorem Says.unique (said : option.Says value words) (also : option.Says otherValue otherWords)
    (same : words ++ rest = otherWords ++ otherRest) :
    words = otherWords ∧ rest = otherRest := by
  have alone_ne (value : String) : "--" ++ option.name ≠ "--" ++ option.name ++ "=" ++ value := by
    intro same
    have := congrArg (fun word => word.toList.length) same
    simp at this
  suffices sameLength : words.length = otherWords.length from List.append_inj same sameLength
  have head : words.head? = otherWords.head? := by
    have heads := congrArg List.head? same
    cases said <;> cases also <;> exact heads
  cases said with
  | switch isSwitch =>
      cases also with
      | switch _ => rfl
      | attached _ takesValue => simp [isSwitch] at takesValue
      | apart takesValue _ => simp [isSwitch] at takesValue
  | attached _ takesValue =>
      cases also with
      | switch isSwitch => simp [isSwitch] at takesValue
      | attached _ _ => rfl
      | apart _ _ => exact absurd (Option.some.inj head).symm (alone_ne _)
  | apart takesValue _ =>
      cases also with
      | switch isSwitch => simp [isSwitch] at takesValue
      | attached _ _ => exact absurd (Option.some.inj head) (alone_ne _)
      | apart _ _ => rfl

/-- Words about an option are there only if it is said. -/
theorem SaysAll.exists_of_optionName? (said : SaysAll sayings words)
    (noValue : ∀ saying ∈ sayings, '=' ∉ saying.1.name.toList) {word name : String}
    (member : word ∈ words) (about : optionName? word = some name) :
    ∃ saying ∈ sayings, saying.1.name = name := by
  induction said with
  | nil => exact absurd member List.not_mem_nil
  | @cons option value words more sayings first later ih =>
      obtain ⟨here, there⟩ := List.forall_mem_cons.mp noValue
      rcases List.mem_append.mp member with inFirst | inLater
      · obtain ⟨head, tail, rfl, named, unnamed⟩ := first.exists_cons here
        refine ⟨(option, value), List.mem_cons_self, ?_⟩
        rcases List.mem_cons.mp inFirst with rfl | inTail
        · exact Option.some.inj (named.symm.trans about)
        · exact nomatch (unnamed word inTail).symm.trans about
      · obtain ⟨saying, member, named⟩ := ih there inLater
        exact ⟨saying, List.mem_cons_of_mem _ member, named⟩

/-- Words of which the first options are said by the first words. -/
theorem SaysAll.exists_append {words : List String} (said : SaysAll (sayings ++ others) words) :
    ∃ first later, words = first ++ later ∧ SaysAll sayings first ∧ SaysAll others later := by
  induction sayings generalizing words with
  | nil => exact ⟨[], words, rfl, .nil, said⟩
  | cons saying sayings ih =>
      cases said with
      | @cons option value words more _ here there =>
          obtain ⟨first, later, rfl, saidFirst, saidLater⟩ := ih there
          exact ⟨words ++ first, later, (List.append_assoc ..).symm, .cons here saidFirst,
            saidLater⟩

/-- Options that are told apart by their names. -/
structure AreApart (options : List (OptionShape δ)) : Prop where
  names : (options.map (·.name)).Nodup
  noValue : ∀ option ∈ options, '=' ∉ option.name.toList

theorem AreApart.eq_of_name {options : List (OptionShape δ)} (apart : AreApart options)
    (member : option ∈ options) (otherMember : other ∈ options) (same : option.name = other.name) :
    option = other :=
  List.inj_on_of_nodup_map apart.names member otherMember same

/-- Options that are said in front of a word that is about no option are said in one way
only. -/
theorem SaysAll.unique {options : List (OptionShape δ)} (apart : AreApart options)
    {lead otherLead : List String} {command otherCommand : String}
    (said : SaysAll sayings lead) (also : SaysAll others otherLead)
    (known : ∀ saying ∈ sayings, saying.1 ∈ options)
    (otherKnown : ∀ saying ∈ others, saying.1 ∈ options)
    (named : optionName? command = none) (otherNamed : optionName? otherCommand = none)
    (same : lead ++ command :: rest = otherLead ++ otherCommand :: otherRest) :
    command :: rest = otherCommand :: otherRest := by
  induction said generalizing others otherLead with
  | nil =>
      cases also with
      | nil => exact same
      | @cons option _ _ _ _ first _ =>
          have member := otherKnown _ List.mem_cons_self
          obtain ⟨word, more, rfl, about, _⟩ := first.exists_cons (apart.noValue option member)
          obtain rfl : command = word := (List.cons.inj same).1
          exact nomatch named.symm.trans about
  | @cons option value words more sayings first later ih =>
      obtain ⟨member, knownLater⟩ := List.forall_mem_cons.mp known
      obtain ⟨word, tail, rfl, about, _⟩ := first.exists_cons (apart.noValue option member)
      cases also with
      | nil =>
          obtain rfl : word = otherCommand := (List.cons.inj same).1
          exact nomatch otherNamed.symm.trans about
      | @cons other otherValue otherWords otherMore others otherFirst otherLater =>
          obtain ⟨otherMember, otherKnownLater⟩ := List.forall_mem_cons.mp otherKnown
          obtain ⟨otherWord, otherTail, rfl, otherAbout, _⟩ :=
            otherFirst.exists_cons (apart.noValue other otherMember)
          obtain rfl : word = otherWord := (List.cons.inj same).1
          obtain rfl : option = other := apart.eq_of_name member otherMember
            (Option.some.inj (about.symm.trans otherAbout))
          rw [List.append_assoc, List.append_assoc] at same
          obtain ⟨_, sameLater⟩ := first.unique otherFirst same
          exact ih otherLater knownLater otherKnownLater sameLater

end OptionShape

end PageInjection
