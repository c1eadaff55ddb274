import PageInjection.Proofs.Markup.Closing

/-!
# Reading the name of an element

A name stands at the front of a text when the text begins with its letters after
case folding.  A character that folds to no letter ends a name, so what stands
behind it decides nothing.
-/

namespace PageInjection.Markup

/-- The elements that go with their content. -/
inductive ElementName where
  | script
  | style
deriving DecidableEq, Repr

def ElementName.letters : ElementName → List Char
  | .script => scriptName
  | .style => styleName

/-- Simple case folding, as far as the letters of the elements' names need it. -/
def foldCase (c : Char) : Char :=
  if c = 'ſ' then 's' else c.toLower

theorem ElementName.isName : (name : ElementName) → IsName name.letters
  | .script => isName_scriptName
  | .style => isName_styleName

theorem ElementName.not_prefix {name other : ElementName} (different : name ≠ other)
    (rest : List Char) : ¬ name.letters <+: other.letters ++ rest := by
  cases name <;> cases other <;> simp_all [letters, scriptName, styleName]

theorem foldsTo_iff {letter c : Char} (lower : letter.isLower = true) :
    foldsTo letter c = true ↔ foldCase c = letter := by
  have notLong : letter ≠ 'ſ' := by
    rintro rfl
    exact absurd lower (by decide)
  by_cases long : c = 'ſ'
  · subst long
    have unchanged : 'ſ'.toLower = 'ſ' := by decide
    simp only [foldsTo, foldCase, unchanged, Ne.symm notLong, beq_iff_eq, beq_self_eq_true,
      Bool.and_true, Bool.or_eq_true, false_or, if_true]
    exact eq_comm
  · simp [foldsTo, foldCase, long]

theorem word_eq_none_iff {letters text : List Char}
    (lower : ∀ letter ∈ letters, letter.isLower = true) :
    word letters text = none ↔ ¬ letters <+: text.map foldCase := by
  induction letters generalizing text with
  | nil => simp [word]
  | cons letter letters ih =>
      have firstLower := lower letter (by simp)
      have laterLower : ∀ other ∈ letters, other.isLower = true := fun other member =>
        lower other (List.mem_cons_of_mem _ member)
      cases text with
      | nil => simp [word]
      | cons c text =>
          by_cases same : foldCase c = letter
          · have folds := (foldsTo_iff firstLower).mpr same
            simp [word, folds, ih laterLower, same]
          · have differs : foldsTo letter c = false := by
              simpa using mt (foldsTo_iff firstLower).mp same
            simp [word, differs, List.cons_prefix_cons, Ne.symm same]

theorem foldCase_of_toLower {c letter : Char} (lower : letter.isLower = true)
    (same : c.toLower = letter) : foldCase c = letter := by
  have folds : foldsTo letter c = true := by simp [foldsTo, same]
  exact (foldsTo_iff lower).mp folds

theorem word_append {letters spelled : List Char}
    (spells : spelled.map Char.toLower = letters) (rest : List Char) :
    word letters (spelled ++ rest) = some rest := by
  induction spelled generalizing letters with
  | nil =>
      subst spells
      rfl
  | cons c spelled ih =>
      subst spells
      simp [word, foldsTo, ih rfl]

theorem not_mem_of_toLower {name spelled : List Char} (named : IsName name)
    (spells : spelled.map Char.toLower = name) {c : Char} (unlettered : c.isAlpha = false) :
    c ∉ spelled := by
  intro member
  have inName : c.toLower ∈ name := spells ▸ List.mem_map_of_mem member
  have unchanged : c.toLower = c := (Text.toLower_eq_iff unlettered).mpr rfl
  have notLower : c.isLower = false := (Bool.or_eq_false_iff.mp unlettered).2
  exact not_mem_of_isName named notLower (unchanged ▸ inName)

theorem map_foldCase_of_toLower {name spelled : List Char} (named : IsName name)
    (spells : spelled.map Char.toLower = name) : spelled.map foldCase = name := by
  subst spells
  apply List.map_congr_left
  intro c member
  exact foldCase_of_toLower (named.2 _ (List.mem_map_of_mem member)) rfl

/-- What begins with letters and then has a character that is none of them begins
with the letters before that character. -/
theorem prefix_of_prefix_append_cons {letters text : List Char} {c : Char}
    (outside : c ∉ letters) {rest : List Char} (begins : letters <+: text ++ c :: rest) :
    letters <+: text := by
  induction letters generalizing text with
  | nil => exact List.nil_prefix
  | cons letter letters ih =>
      simp only [List.mem_cons, not_or] at outside
      cases text with
      | nil => exact absurd (List.cons_prefix_cons.mp begins).1.symm outside.1
      | cons d text =>
          obtain ⟨same, later⟩ := List.cons_prefix_cons.mp begins
          exact List.cons_prefix_cons.mpr ⟨same, ih outside.2 later⟩

/-- A name that does not stand in front of a `>` is not made by what follows it. -/
theorem word_append_close {name text : List Char} (named : IsName name)
    (unnamed : ¬ name <+: text.map foldCase) (rest : List Char) :
    word name (text ++ '>' :: rest) = none := by
  have outside : foldCase '>' ∉ name := not_mem_of_isName named (by decide)
  rw [word_eq_none_iff named.2, List.map_append, List.map_cons]
  exact fun longer => unnamed (prefix_of_prefix_append_cons outside longer)

theorem word_cons_eq_none {name : List Char} (named : IsName name) {c : Char}
    (unlettered : (foldCase c).isLower = false) (rest : List Char) :
    word name (c :: rest) = none := by
  obtain ⟨letter, letters, rfl⟩ := List.exists_cons_of_ne_nil named.1
  rw [word_eq_none_iff named.2, List.map_cons, List.cons_prefix_cons]
  rintro ⟨rfl, _⟩
  exact absurd (named.2 _ List.mem_cons_self) (by simp [unlettered])

end PageInjection.Markup
