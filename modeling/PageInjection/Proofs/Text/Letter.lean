import PageInjection.Text.Blank

/-!
# ASCII letters by their codes

The character classes and the change to lower case as statements about code
points, so that facts about single characters are facts of arithmetic.
-/

namespace PageInjection.Text

theorem isUpper_iff {c : Char} : c.isUpper = true ↔ 65 ≤ c.toNat ∧ c.toNat ≤ 90 := by
  change decide (65 ≤ c.val ∧ c.val ≤ 90) = true ↔ 65 ≤ c.toNat ∧ c.toNat ≤ 90
  rw [decide_eq_true_eq, UInt32.le_iff_toNat_le, UInt32.le_iff_toNat_le]
  rfl

theorem isLower_iff {c : Char} : c.isLower = true ↔ 97 ≤ c.toNat ∧ c.toNat ≤ 122 := by
  change (decide (97 ≤ c.val) && decide (c.val ≤ 122)) = true ↔ 97 ≤ c.toNat ∧ c.toNat ≤ 122
  rw [Bool.and_eq_true, decide_eq_true_eq, decide_eq_true_eq, UInt32.le_iff_toNat_le,
    UInt32.le_iff_toNat_le]
  rfl

theorem isAlpha_iff {c : Char} : c.isAlpha = true ↔
    (65 ≤ c.toNat ∧ c.toNat ≤ 90) ∨ (97 ≤ c.toNat ∧ c.toNat ≤ 122) := by
  change (c.isUpper || c.isLower) = true ↔ _
  rw [Bool.or_eq_true, isUpper_iff, isLower_iff]

theorem toNat_toLower (c : Char) :
    c.toLower.toNat = if c.isUpper = true then c.toNat + 32 else c.toNat := by
  by_cases upper : c.isUpper = true
  · have capital : 65 ≤ c.val ∧ c.val ≤ 90 := of_decide_eq_true upper
    have small : c.val.toNat ≤ 90 := UInt32.le_iff_toNat_le.mp capital.2
    have lowered : c.toLower.val = c.val + 32 := congrArg Char.val (dif_pos capital)
    have code : c.toLower.toNat = (c.val + 32).toNat := congrArg UInt32.toNat lowered
    rw [if_pos upper, code, UInt32.toNat_add]
    exact Nat.mod_eq_of_lt (by change c.val.toNat + 32 < 2 ^ 32; omega)
  · have other : ¬ (65 ≤ c.val ∧ c.val ≤ 90) := fun capital =>
      upper (decide_eq_true capital)
    have same : c.toLower = c := dif_neg other
    rw [if_neg upper, same]

/-- Only a letter has a lower-case form of its own. -/
theorem toLower_eq_iff {c letter : Char} (unlettered : letter.isAlpha = false) :
    c.toLower = letter ↔ c = letter := by
  have codes : ¬ ((65 ≤ letter.toNat ∧ letter.toNat ≤ 90) ∨
      (97 ≤ letter.toNat ∧ letter.toNat ≤ 122)) := by
    rw [← isAlpha_iff]
    simp [unlettered]
  rw [← Char.toNat_inj, ← Char.toNat_inj, toNat_toLower]
  split
  · rename_i capital
    rw [isUpper_iff] at capital
    omega
  · rfl

theorem isAlpha_eq_false_of_isBlank {c : Char} (blank : isBlank c = true) :
    c.isAlpha = false := by
  simp only [isBlank, Bool.or_eq_true, Bool.and_eq_true, decide_eq_true_eq,
    beq_iff_eq] at blank
  rw [← Bool.not_eq_true, isAlpha_iff]
  omega

end PageInjection.Text
