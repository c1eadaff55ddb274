import PageInjection.Markup.Strip
import PageInjection.Proofs.Text.Letter

/-!
# Closing an element

A block is one element when nothing between its two tags closes it.  A text
closes an element where it holds `</` and the name in any ASCII case; blanks at
its ends have no part in that.
-/

namespace PageInjection.Markup

/-- The text begins with the letters, in any ASCII case. -/
def Begins : (letters text : List Char) → Prop
  | [], _ => True
  | _ :: _, [] => False
  | letter :: letters, c :: text => c.toLower = letter ∧ Begins letters text

instance decidableBegins : (letters text : List Char) → Decidable (Begins letters text)
  | [], _ => .isTrue trivial
  | _ :: _, [] => .isFalse id
  | letter :: letters, c :: text =>
      have := decidableBegins letters text
      inferInstanceAs (Decidable (c.toLower = letter ∧ Begins letters text))

/-- Somewhere in the text the named element is closed. -/
def Closes (name text : List Char) : Prop :=
  ∃ back, back <:+ text ∧ Begins ('<' :: '/' :: name) back

/-- A name in lower-case letters. -/
def IsName (name : List Char) : Prop :=
  name ≠ [] ∧ ∀ letter ∈ name, letter.isLower = true

/-- The opening tag of the named element. -/
def startTag (name : List Char) : List Char := '<' :: (name ++ ['>'])

/-- The closing tag of the named element. -/
def endTag (name : List Char) : List Char := '<' :: '/' :: (name ++ ['>'])

/-- One element and nothing else: between its tags stands some content, and the
closing tag at the end is the only place where the element is closed. -/
def IsElement (name text : List Char) : Prop :=
  (∃ content, text = startTag name ++ content ++ endTag name) ∧
    ∀ back, back <:+ text → Begins ('<' :: '/' :: name) back → back = endTag name

theorem isName_styleName : IsName styleName :=
  ⟨by decide, List.all_eq_true.mp (by decide)⟩

theorem isName_scriptName : IsName scriptName :=
  ⟨by decide, List.all_eq_true.mp (by decide)⟩

/-! ## Letters and blanks -/

@[simp] theorem toLower_eq_open_iff {c : Char} : c.toLower = '<' ↔ c = '<' :=
  Text.toLower_eq_iff (by decide)

@[simp] theorem toLower_eq_slash_iff {c : Char} : c.toLower = '/' ↔ c = '/' :=
  Text.toLower_eq_iff (by decide)

theorem not_mem_of_isName {name : List Char} (named : IsName name) {c : Char}
    (unlettered : c.isLower = false) : c ∉ name := by
  intro member
  have lettered := named.2 c member
  simp [unlettered] at lettered

/-- A blank character stands in no closing tag. -/
theorem not_mem_of_isBlank {name : List Char} (named : IsName name) {c : Char}
    (blank : Text.isBlank c = true) : c.toLower ∉ '<' :: '/' :: name := by
  have unlettered := Text.isAlpha_eq_false_of_isBlank blank
  have same : c.toLower = c := (Text.toLower_eq_iff unlettered).mpr rfl
  have notLower : c.isLower = false := (Bool.or_eq_false_iff.mp unlettered).2
  rw [same]
  simp only [List.mem_cons, not_or]
  refine ⟨?_, ?_, not_mem_of_isName named notLower⟩
  · rintro rfl
    exact absurd blank (by decide)
  · rintro rfl
    exact absurd blank (by decide)

/-! ## Beginnings of a text -/

theorem Begins.ne_nil {letter : Char} {letters text : List Char}
    (begins : Begins (letter :: letters) text) : text ≠ [] := by
  rintro rfl
  exact begins

/-- What follows a character outside of the letters does not matter. -/
theorem begins_append_cons {letters : List Char} {c : Char}
    (outside : c.toLower ∉ letters) (text rest : List Char) :
    Begins letters (text ++ c :: rest) ↔ Begins letters text := by
  induction text generalizing letters with
  | nil =>
      cases letters with
      | nil => simp [Begins]
      | cons letter letters =>
          have different : ¬ c.toLower = letter := by
            intro same
            exact outside (by simp [same])
          simp [Begins, different]
  | cons d text ih =>
      cases letters with
      | nil => simp [Begins]
      | cons letter letters =>
          have tailOutside : c.toLower ∉ letters := fun member =>
            outside (List.mem_cons_of_mem _ member)
          simp [Begins, ih tailOutside]

/-! ## Closing in parts of a text -/

@[simp] theorem not_closes_nil (name : List Char) : ¬ Closes name [] := by
  rintro ⟨back, suffix, begins⟩
  exact begins.ne_nil (List.suffix_nil.mp suffix)

theorem closes_cons_iff {name : List Char} {c : Char} {text : List Char} :
    Closes name (c :: text) ↔
      (c = '<' ∧ Begins ('/' :: name) text) ∨ Closes name text := by
  constructor
  · rintro ⟨back, suffix, begins⟩
    rcases List.suffix_cons_iff.mp suffix with whole | later
    · subst whole
      exact .inl ⟨toLower_eq_open_iff.mp begins.1, begins.2⟩
    · exact .inr ⟨back, later, begins⟩
  · rintro (⟨rfl, begins⟩ | ⟨back, suffix, begins⟩)
    · exact ⟨'<' :: text, List.suffix_rfl, toLower_eq_open_iff.mpr rfl, begins⟩
    · exact ⟨back, suffix.trans (List.suffix_cons c text), begins⟩

/-- A character that is no part of a closing tag is a boundary: nothing behind
it completes what stands in front of it. -/
theorem closes_append_singleton {name : List Char} {c : Char}
    (outside : c.toLower ∉ '<' :: '/' :: name) (text : List Char) :
    Closes name (text ++ [c]) ↔ Closes name text := by
  induction text with
  | nil =>
      have different : c ≠ '<' := by
        rintro rfl
        exact outside (by simp)
      simp [closes_cons_iff, different]
  | cons d text ih =>
      have tailOutside : c.toLower ∉ '/' :: name := fun member =>
        outside (List.mem_cons_of_mem _ member)
      rw [List.cons_append, closes_cons_iff, closes_cons_iff, ih,
        begins_append_cons tailOutside]

/-! ## Trimming -/

theorem closes_trimLeft (name text : List Char) :
    Closes name (Text.trimLeft text) ↔ Closes name text := by
  induction text with
  | nil => rfl
  | cons c text ih =>
      unfold Text.trimLeft at ih ⊢
      by_cases blank : Text.isBlank c = true
      · have different : c ≠ '<' := by
          rintro rfl
          exact absurd blank (by decide)
        simp [blank, ih, closes_cons_iff, different]
      · simp [blank]

theorem closes_trimRight {name : List Char} (named : IsName name) (text : List Char) :
    Closes name (Text.trimRight text) ↔ Closes name text := by
  induction reversed : text.reverse generalizing text with
  | nil => simp [List.reverse_eq_nil_iff.mp reversed, Text.trimRight]
  | cons c front ih =>
      have split : text = front.reverse ++ [c] := by
        rw [← List.reverse_reverse text, reversed, List.reverse_cons]
      by_cases blank : Text.isBlank c = true
      · have step : Text.trimRight text = Text.trimRight front.reverse := by
          simp [Text.trimRight, split, blank]
        rw [step, ih front.reverse (List.reverse_reverse front), split,
          closes_append_singleton (not_mem_of_isBlank named blank)]
      · have same : Text.trimRight text = text := by
          simp [Text.trimRight, split, blank]
        rw [same]

theorem closes_trim {name : List Char} (named : IsName name) (text : List Char) :
    Closes name (Text.trim text) ↔ Closes name text := by
  rw [Text.trim, closes_trimRight named, closes_trimLeft]

/-! ## Blocks -/

theorem closes_append_of_not_mem {front : List Char} (plain : '<' ∉ front)
    (name text : List Char) : Closes name (front ++ text) ↔ Closes name text := by
  induction front with
  | nil => rfl
  | cons c front ih =>
      simp only [List.mem_cons, not_or] at plain
      have different : ¬ c = '<' := fun same => plain.1 same.symm
      simp [closes_cons_iff, different, ih plain.2]

private theorem open_not_mem {name : List Char} (named : IsName name) :
    '<' ∉ name ++ ['>'] := by
  simpa using not_mem_of_isName named (show '<'.isLower = false by decide)

theorem closes_startTag_append {name : List Char} (named : IsName name)
    (content : List Char) :
    Closes name (startTag name ++ content) ↔ Closes name content := by
  have noSlash : ¬ Begins ('/' :: name) (name ++ ['>'] ++ content) := by
    obtain ⟨letter, letters, rfl⟩ := List.exists_cons_of_ne_nil named.1
    intro begins
    have slash : letter = '/' := toLower_eq_slash_iff.mp begins.1
    exact not_mem_of_isName named (show '/'.isLower = false by decide) (by simp [slash])
  rw [startTag, List.cons_append, closes_cons_iff,
    closes_append_of_not_mem (open_not_mem named)]
  exact or_iff_right fun found => noSlash found.2

private theorem suffix_append_cases {back front rest : List Char}
    (suffix : back <:+ front ++ rest) :
    back <:+ rest ∨ ∃ c part, c :: part <:+ front ∧ back = c :: part ++ rest := by
  induction front with
  | nil => exact .inl suffix
  | cons d front ih =>
      rcases List.suffix_cons_iff.mp suffix with whole | later
      · exact .inr ⟨d, front, List.suffix_rfl, whole⟩
      · rcases ih later with inRest | ⟨c, part, inFront, split⟩
        · exact .inl inRest
        · exact .inr ⟨c, part, inFront.trans (List.suffix_cons d front), split⟩

private theorem begins_append_open {name : List Char} (named : IsName name)
    (c : Char) (part rest : List Char) :
    Begins ('<' :: '/' :: name) (c :: part ++ '<' :: rest) ↔
      Begins ('<' :: '/' :: name) (c :: part) := by
  have outside : '<'.toLower ∉ '/' :: name := by
    have unnamed := not_mem_of_isName named (show '<'.isLower = false by decide)
    simpa [show '<'.toLower = '<' from rfl] using unnamed
  exact and_congr_right fun _ => begins_append_cons outside part rest

/-- A block is one element exactly when its content does not close it. -/
theorem isElement_block_iff {name : List Char} (named : IsName name)
    (content : List Char) :
    IsElement name (startTag name ++ content ++ endTag name) ↔
      ¬ Closes name content := by
  constructor
  · rintro ⟨_, only⟩ ⟨back, suffix, begins⟩
    obtain ⟨c, part, rfl⟩ := List.exists_cons_of_ne_nil begins.ne_nil
    have placed : c :: part ++ endTag name <:+ startTag name ++ content ++ endTag name :=
      List.suffix_append_self_iff.mpr (List.suffix_append_of_suffix suffix)
    have same := only _ placed ((begins_append_open named c part _).mpr begins)
    have sameLength := congrArg List.length same
    simp only [List.cons_append, List.length_cons, List.length_append] at sameLength
    omega
  · intro inside
    refine ⟨⟨content, rfl⟩, ?_⟩
    intro back suffix begins
    rcases suffix_append_cases suffix with atEnd | ⟨c, part, inFront, rfl⟩
    · rcases List.suffix_cons_iff.mp atEnd with whole | later
      · exact whole
      · have early : Closes name ('/' :: (name ++ ['>'])) := ⟨back, later, begins⟩
        have plain : '<' ∉ '/' :: (name ++ ['>']) := by
          simpa using open_not_mem named
        have nothing := (closes_append_of_not_mem plain name []).mp (by simpa using early)
        exact absurd nothing (not_closes_nil name)
    · have early : Closes name (startTag name ++ content) :=
        ⟨c :: part, inFront, (begins_append_open named c part _).mp begins⟩
      exact absurd ((closes_startTag_append named content).mp early) inside

end PageInjection.Markup
