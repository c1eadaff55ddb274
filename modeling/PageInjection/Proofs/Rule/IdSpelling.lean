import PageInjection.Proofs.Rule.Grammar

/-!
# The two spellings of an id

A rule names a resource by its id either after `post-` or, if the resource is a page or a
post, by the id alone.  After `post-` an id is digits and nothing else.  Alone it is read
like any other number, so that a plus sign may stand in front of the digits.  In all
other respects the two spellings take the same numerals.
-/

namespace PageInjection

/-- The text is an id when it stands after `post-`. -/
def IsIdAfterPost (text : String) (id : ResourceId) : Prop :=
  ∃ raw, ConditionRule.ofToken ("post-" ++ text) = .resourceId id raw

/-- The text names a page by its id alone. -/
def IsIdAlone (text : String) (id : ResourceId) : Prop :=
  ConditionRule.namesPageOrPost text
    { isSingular := true, resourceId := some id, type := some .page } = true

namespace ConditionRule

theorem ofToken_eq_resourceId_iff {token raw : String} {id : ResourceId} :
    ofToken token = .resourceId id raw ↔ resourceIdOf? token.toList = some id ∧ token = raw := by
  unfold ofToken
  split
  · rename_i all
    refine iff_of_false (by simp) ?_
    rintro ⟨found, _⟩
    obtain ⟨digits, split, _⟩ := resourceIdOf?_eq_some_iff.mp found
    exact absurd (all ▸ split) (by simp [allToken])
  · cases resource : resourceIdOf? token.toList with
    | some found => simp
    | none =>
        refine iff_of_false ?_ (by simp)
        cases categoryOf? token.toList <;> simp

end ConditionRule

theorem isIdAfterPost_iff {text : String} {id : ResourceId} :
    IsIdAfterPost text id ↔
      Text.IsNumeral text.toList ∧ Text.numeralValue text.toList = id.toNat := by
  simp only [IsIdAfterPost, ConditionRule.ofToken_eq_resourceId_iff, String.toList_append,
    ConditionRule.resourceIdOf?_eq_some_iff]
  constructor
  · rintro ⟨_, ⟨digits, split, numeral, total⟩, _⟩
    obtain rfl := List.append_cancel_left split
    exact ⟨numeral, total⟩
  · rintro ⟨numeral, total⟩
    exact ⟨_, ⟨_, rfl, numeral, total⟩, rfl⟩

theorem isIdAlone_iff {text : String} {id : ResourceId} :
    IsIdAlone text id ↔ Text.Spelled text.toList id.toNat := by
  rw [IsIdAlone, ← String.ofList_toList (s := text), ConditionRule.namesPageOrPost_iff]
  simp [ConditionRule.isPageOrPost_iff, Text.uint64?_eq_some_iff]

theorem isIdAlone_iff_isIdAfterPost {text : String} {id : ResourceId} :
    IsIdAlone text id ↔
      IsIdAfterPost text id ∨ ∃ digits, text = "+" ++ digits ∧ IsIdAfterPost digits id := by
  simp only [isIdAlone_iff, isIdAfterPost_iff]
  constructor
  · rintro ⟨digits, same | signed, numeral, total⟩
    · exact .inl (same ▸ ⟨numeral, total⟩)
    · refine .inr ⟨String.ofList digits, ?_, by simpa using ⟨numeral, total⟩⟩
      apply String.toList_inj.mp
      simp [signed]
  · rintro (⟨numeral, total⟩ | ⟨digits, rfl, numeral, total⟩)
    · exact ⟨text.toList, .inl rfl, numeral, total⟩
    · exact ⟨digits.toList, .inr (by simp), numeral, total⟩

theorem not_isIdAfterPost_plus (digits : String) (id : ResourceId) :
    ¬ IsIdAfterPost ("+" ++ digits) id := by
  intro isId
  exact Text.plus_not_mem (isIdAfterPost_iff.mp isId).1 (by simp)

/-- Alone, an id is what it is after `post-` or that with a plus sign in front, and the
plus sign is all that the two spellings do not agree on. -/
theorem idSpellings_agree_iff (text : String) (id : ResourceId) :
    (IsIdAlone text id ↔
      IsIdAfterPost text id ∨ ∃ digits, text = "+" ++ digits ∧ IsIdAfterPost digits id) ∧
    ((IsIdAfterPost text id ↔ IsIdAlone text id) ↔
      ¬ ∃ digits, text = "+" ++ digits ∧ IsIdAfterPost digits id) := by
  refine ⟨isIdAlone_iff_isIdAfterPost, ?_⟩
  rw [isIdAlone_iff_isIdAfterPost]
  constructor
  · rintro same ⟨digits, rfl, isId⟩
    exact not_isIdAfterPost_plus digits id (same.mpr (.inr ⟨digits, rfl, isId⟩))
  · intro unsigned
    exact (or_iff_left unsigned).symm

/-- Twelve with a plus sign is an id alone and none after `post-`. -/
theorem idSpellings_differ_at_plus : ¬ (IsIdAfterPost "+12" 12 ↔ IsIdAlone "+12" 12) := by
  have alone : IsIdAlone "+12" 12 := by
    unfold IsIdAlone
    decide +kernel
  exact fun same => not_isIdAfterPost_plus "12" 12 (same.mpr alone)

end PageInjection
