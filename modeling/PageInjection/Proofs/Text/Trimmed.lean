import PageInjection.Text.Blank

/-!
# What trimming leaves

Trimming takes blanks off both ends until none stands there.  `Trimmed` says so
without the trimming function, and determines its result.
-/

namespace PageInjection.Text

/-- Every character is blank. -/
def AllBlank (text : List Char) : Prop :=
  ∀ c ∈ text, isBlank c = true

/-- No blank character stands at an end. -/
def BareEnds (text : List Char) : Prop :=
  (∀ c, text.head? = some c → isBlank c = false) ∧
    ∀ c, text.getLast? = some c → isBlank c = false

instance decidableBareEnds (text : List Char) : Decidable (BareEnds text) :=
  decidable_of_iff
    (text.head?.all (!isBlank ·) = true ∧ text.getLast?.all (!isBlank ·) = true)
    (by simp [BareEnds, Option.all_eq_true])

/-- The core of a text: what stands between the blanks at its ends. -/
def Trimmed (text core : List Char) : Prop :=
  BareEnds core ∧ ∃ front back,
    text = front ++ core ++ back ∧ AllBlank front ∧ AllBlank back

theorem trimLeft_append {front : List Char} (blank : AllBlank front)
    (text : List Char) : trimLeft (front ++ text) = trimLeft text := by
  induction front with
  | nil => rfl
  | cons c front ih =>
      have first := blank c (by simp)
      have later : AllBlank front := fun d member => blank d (by simp [member])
      simpa [trimLeft, first] using ih later

theorem trimLeft_eq_self (text : List Char)
    (bare : ∀ c, text.head? = some c → isBlank c = false) : trimLeft text = text := by
  cases text with
  | nil => rfl
  | cons c rest => simp [trimLeft, bare c rfl]

theorem trimRight_append (text : List Char) {back : List Char}
    (blank : AllBlank back) : trimRight (text ++ back) = trimRight text := by
  have reversed : AllBlank back.reverse := fun c member => blank c (by simpa using member)
  have dropped := trimLeft_append reversed text.reverse
  simpa [trimRight, trimLeft] using dropped

theorem trimRight_eq_self {text : List Char}
    (bare : ∀ c, text.getLast? = some c → isBlank c = false) :
    trimRight text = text := by
  have same := trimLeft_eq_self text.reverse (by simpa using bare)
  unfold trimLeft at same
  simp [trimRight, same]

theorem exists_trimLeft_split (text : List Char) :
    ∃ front, text = front ++ trimLeft text ∧ AllBlank front ∧
      ∀ c, (trimLeft text).head? = some c → isBlank c = false := by
  induction text with
  | nil => exact ⟨[], rfl, by simp [AllBlank], by simp [trimLeft]⟩
  | cons c rest ih =>
      by_cases blank : isBlank c = true
      · obtain ⟨front, split, blanks, bare⟩ := ih
        have step : trimLeft (c :: rest) = trimLeft rest := by simp [trimLeft, blank]
        rw [step]
        exact ⟨c :: front, congrArg (c :: ·) split,
          List.forall_mem_cons.mpr ⟨blank, blanks⟩, bare⟩
      · have stays : trimLeft (c :: rest) = c :: rest := by simp [trimLeft, blank]
        rw [stays]
        refine ⟨[], rfl, by simp [AllBlank], ?_⟩
        rintro d first
        obtain rfl := Option.some.inj first
        exact Bool.not_eq_true _ ▸ blank

theorem exists_trimRight_split (text : List Char) :
    ∃ back, text = trimRight text ++ back ∧ AllBlank back ∧
      ∀ c, (trimRight text).getLast? = some c → isBlank c = false := by
  obtain ⟨front, split, blanks, bare⟩ := exists_trimLeft_split text.reverse
  refine ⟨front.reverse, ?_, fun c member => blanks c (by simpa using member), ?_⟩
  · have reversed := congrArg List.reverse split
    simpa [trimRight, trimLeft] using reversed
  · simpa [trimRight, trimLeft] using bare

private theorem trimLeft_core_append {core back : List Char} (bare : BareEnds core)
    (blanks : AllBlank back) : trimRight (trimLeft (core ++ back)) = core := by
  cases core with
  | nil =>
      have all : trimLeft (back ++ []) = [] := by rw [trimLeft_append blanks]; rfl
      rw [List.append_nil] at all
      simp [all, trimRight]
  | cons c rest =>
      have stays : trimLeft (c :: rest ++ back) = c :: rest ++ back :=
        trimLeft_eq_self _ (by simpa using bare.1)
      rw [stays, trimRight_append _ blanks, trimRight_eq_self bare.2]

/-- Trimming leaves the core of a text and nothing else. -/
theorem trim_eq_iff {text core : List Char} : trim text = core ↔ Trimmed text core := by
  constructor
  · rintro rfl
    obtain ⟨front, split, frontBlank, bareLeft⟩ := exists_trimLeft_split text
    obtain ⟨back, coreSplit, backBlank, bareRight⟩ :=
      exists_trimRight_split (trimLeft text)
    refine ⟨⟨?_, bareRight⟩, front, back, ?_, frontBlank, backBlank⟩
    · intro c first
      have inCore : (trimRight (trimLeft text)).head? = some c := first
      apply bareLeft c
      rw [coreSplit, List.head?_append, inCore]
      rfl
    · rw [List.append_assoc]
      exact coreSplit ▸ split
  · rintro ⟨bare, front, back, rfl, frontBlank, backBlank⟩
    rw [trim, List.append_assoc, trimLeft_append frontBlank]
    exact trimLeft_core_append bare backBlank

theorem trim_infix (text : List Char) : trim text <:+: text := by
  obtain ⟨_, front, back, split, _, _⟩ := trim_eq_iff.mp (rfl : trim text = trim text)
  exact ⟨front, back, split.symm⟩

theorem bareEnds_trim (text : List Char) : BareEnds (trim text) :=
  (trim_eq_iff.mp rfl).1

/-- A text without blanks at its ends is its own core. -/
theorem trim_eq_self {text : List Char} (bare : BareEnds text) : trim text = text :=
  trim_eq_iff.mpr ⟨bare, [], [], by simp, by simp [AllBlank], by simp [AllBlank]⟩

theorem trim_eq_nil_iff {text : List Char} : trim text = [] ↔ AllBlank text := by
  rw [trim_eq_iff]
  constructor
  · rintro ⟨_, front, back, rfl, frontBlank, backBlank⟩
    intro c member
    rw [List.append_nil, List.mem_append] at member
    exact member.elim (frontBlank c) (backBlank c)
  · intro blank
    exact ⟨⟨by simp, by simp⟩, text, [], by simp, blank, by simp [AllBlank]⟩

theorem trim_cons_of_isBlank {c : Char} (blank : isBlank c = true) (text : List Char) :
    trim (c :: text) = trim text := by
  simp [trim, trimLeft, blank]

end PageInjection.Text
