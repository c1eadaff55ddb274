import PageInjection.Proofs.Text.Letter
import PageInjection.Text.Case

/-!
# Texts without capital letters

An ASCII text without capital letters is its own lower case.
-/

namespace PageInjection.Text

/-- An ASCII character that is no capital letter. -/
def IsPlainLower (c : Char) : Prop :=
  c.toNat < 0x80 ∧ c.toLower = c

instance (c : Char) : Decidable (IsPlainLower c) :=
  inferInstanceAs (Decidable (_ ∧ _))

theorem lowerAfter_eq_self {text before : List Char} (plain : ∀ c ∈ text, IsPlainLower c) :
    lowerAfter before text = text := by
  induction text generalizing before with
  | nil => rfl
  | cons c rest ih =>
      obtain ⟨⟨ascii, lower⟩, others⟩ := List.forall_mem_cons.mp plain
      have notSigma : c ≠ 'Σ' := by
        rintro rfl
        exact absurd ascii (by decide)
      simp [lowerAfter, notSigma, lowerChar, mapCase, ascii, lower, ih others]

theorem toLower_eq_self {text : List Char} (plain : ∀ c ∈ text, IsPlainLower c) :
    toLower text = text :=
  lowerAfter_eq_self plain

/-- Characters that have no other case stay where they are. -/
theorem mem_lowerAfter {c : Char} {text before : List Char} (member : c ∈ text)
    (plain : IsPlainLower c) : c ∈ lowerAfter before text := by
  induction text generalizing before with
  | nil => exact nomatch member
  | cons d rest ih =>
      rw [lowerAfter]
      rcases List.mem_cons.mp member with rfl | later
      · have notSigma : c ≠ 'Σ' := by
          rintro rfl
          exact absurd plain.1 (by decide)
        simp [notSigma, lowerChar, mapCase, plain.1, plain.2]
      · split
        · exact List.mem_cons_of_mem _ (ih later)
        · exact List.mem_append_right _ (ih later)

theorem mem_toLower {c : Char} {text : List Char} (member : c ∈ text) (plain : IsPlainLower c) :
    c ∈ toLower text :=
  mem_lowerAfter member plain

theorem isPlainLower_of_isDigit {c : Char} (digit : c.isDigit = true) : IsPlainLower c := by
  have code : 48 ≤ c.toNat ∧ c.toNat ≤ 57 := Char.isDigit_iff_toNat.mp digit
  have small : ¬ c.isUpper = true := by
    rw [isUpper_iff]
    omega
  exact ⟨by omega, Char.toNat_inj.mp (by rw [toNat_toLower, if_neg small])⟩

end PageInjection.Text
