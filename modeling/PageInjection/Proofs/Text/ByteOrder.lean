import PageInjection.Proofs.Text.Utf8

/-!
# The order of texts by bytes

Texts are ordered as their bytes are, position by position.  Different texts have
different bytes, so the order is strict and decides between any two texts.
-/

namespace PageInjection.Text

theorem bytesLt_iff {left right : List UInt8} : bytesLt left right = true ↔ left < right := by
  induction left generalizing right with
  | nil => cases right <;> simp [bytesLt]
  | cons first left ih =>
      cases right with
      | nil => simp [bytesLt]
      | cons other right => simp [bytesLt, List.cons_lt_cons_iff, ih]

theorem encode_inj {left right : List Char} : encode left = encode right ↔ left = right := by
  constructor
  · intro same
    have read := congrArg decode same
    rw [decode_encode, decode_encode] at read
    exact Except.ok.inj read
  · rintro rfl
    rfl

theorem byteLt_iff {left right : String} :
    byteLt left right = true ↔ encode left.toList < encode right.toList :=
  bytesLt_iff

theorem byteLt_irrefl (text : String) : ¬ byteLt text text = true := by
  intro less
  exact List.lt_irrefl _ (byteLt_iff.mp less)

theorem byteLt_trans {first second third : String} (lower : byteLt first second = true)
    (upper : byteLt second third = true) : byteLt first third = true :=
  byteLt_iff.mpr (List.lt_trans (byteLt_iff.mp lower) (byteLt_iff.mp upper))

/-- Of two different texts one comes first. -/
theorem byteLt_of_not_byteLt {left right : String} (different : left ≠ right)
    (notLess : ¬ byteLt left right = true) : byteLt right left = true := by
  have atMost : encode right.toList ≤ encode left.toList :=
    List.not_lt.mp fun less => notLess (byteLt_iff.mpr less)
  rcases List.le_iff_lt_or_eq.mp atMost with less | same
  · exact byteLt_iff.mpr less
  · exact absurd (String.toList_inj.mp (encode_inj.mp same)) different.symm

end PageInjection.Text
