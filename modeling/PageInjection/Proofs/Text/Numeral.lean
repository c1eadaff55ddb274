import PageInjection.Proofs.Text.Letter
import PageInjection.Text.Numeral

/-!
# Numerals and their values

Reading a numeral succeeds exactly on the digits whose value is within the
range, whatever their number and with any zeros in front; writing a number in
decimal and reading the digits gives the number back.
-/

namespace PageInjection.Text

/-- One or more ASCII digits. -/
def IsNumeral (text : List Char) : Prop :=
  text ≠ [] ∧ ∀ c ∈ text, c.isDigit = true

/-- The value of a sequence of decimal digits. -/
def numeralValue (digits : List Char) : Nat :=
  Nat.ofDigitChars 10 digits 0

/-- The text spells a number: digits of that value, with at most one plus sign
in front. -/
def Spelled (text : List Char) (value : Nat) : Prop :=
  ∃ digits, (text = digits ∨ text = '+' :: digits) ∧
    IsNumeral digits ∧ numeralValue digits = value

theorem le_ofDigitChars (digits : List Char) (value : Nat) :
    value ≤ Nat.ofDigitChars 10 digits value := by
  rw [Nat.ofDigitChars_eq_ofDigitChars_zero]
  have scaled : 1 * value ≤ 10 ^ digits.length * value :=
    Nat.mul_le_mul_right value (Nat.pow_pos (by decide))
  omega

theorem readDigits_eq_ok_iff {bound : Nat} {overflow : NumeralFault}
    {digits : List Char} {value result : Nat} (within : value ≤ bound) :
    readDigits bound overflow value digits = .ok result ↔
      (∀ c ∈ digits, c.isDigit = true) ∧
        Nat.ofDigitChars 10 digits value = result ∧ result ≤ bound := by
  induction digits generalizing value with
  | nil =>
      simp only [readDigits, Except.ok.injEq, List.not_mem_nil, Nat.ofDigitChars_nil]
      constructor
      · rintro rfl
        exact ⟨by simp, rfl, within⟩
      · exact fun all => all.2.1
  | cons c rest ih =>
      by_cases digit : c.isDigit = true
      · have next : value * 10 + (c.toNat - 48) = 10 * value + (c.toNat - '0'.toNat) := by
          rw [Nat.mul_comm]
          rfl
        simp only [readDigits, digit?, digit, if_true, List.forall_mem_cons, true_and,
          Nat.ofDigitChars_cons, ← next]
        split
        · rename_i small
          exact ih small
        · rename_i large
          refine iff_of_false (by simp) ?_
          rintro ⟨_, total, bounded⟩
          have atLeast := le_ofDigitChars rest (value * 10 + (c.toNat - 48))
          omega
      · simp [readDigits, digit?, digit]

private theorem readDigits_zero_eq_ok_iff {bound : Nat} {digits : List Char}
    {result : Nat} (written : digits ≠ []) :
    readDigits bound .tooLarge 0 digits = .ok result ↔
      (IsNumeral digits ∧ numeralValue digits = result) ∧ result ≤ bound := by
  rw [readDigits_eq_ok_iff (Nat.zero_le bound)]
  simp [IsNumeral, numeralValue, written, and_assoc]

theorem plus_not_mem {digits : List Char} (numeral : IsNumeral digits) :
    '+' ∉ digits := by
  intro member
  exact absurd (numeral.2 '+' member) (by decide)

theorem isNumeral_decimal (value : Nat) : IsNumeral (decimal value) :=
  ⟨Nat.toDigits_ne_nil, fun _ member =>
    Nat.isDigit_of_mem_toDigits (by decide) (by decide) member⟩

@[simp] theorem numeralValue_decimal (value : Nat) : numeralValue (decimal value) = value :=
  Nat.ofDigitChars_ten_toDigits

theorem decimal_inj {left right : Nat} : decimal left = decimal right ↔ left = right := by
  constructor
  · intro same
    rw [← numeralValue_decimal left, same, numeralValue_decimal]
  · rintro rfl
    rfl

theorem spelled_plus_iff {digits : List Char} {value : Nat} :
    Spelled ('+' :: digits) value ↔ IsNumeral digits ∧ numeralValue digits = value := by
  constructor
  · rintro ⟨other, rfl | same, numeral, total⟩
    · exact absurd (List.mem_cons_self) (plus_not_mem numeral)
    · obtain ⟨_, rfl⟩ := List.cons.inj same
      exact ⟨numeral, total⟩
  · rintro ⟨numeral, total⟩
    exact ⟨digits, .inr rfl, numeral, total⟩

theorem spelled_cons_iff {c : Char} {rest : List Char} {value : Nat} (other : c ≠ '+') :
    Spelled (c :: rest) value ↔
      IsNumeral (c :: rest) ∧ numeralValue (c :: rest) = value := by
  constructor
  · rintro ⟨digits, rfl | same, numeral, total⟩
    · exact ⟨numeral, total⟩
    · exact absurd (List.cons.inj same).1 other
  · rintro ⟨numeral, total⟩
    exact ⟨c :: rest, .inl rfl, numeral, total⟩

theorem not_spelled_nil (value : Nat) : ¬ Spelled [] value := by
  rintro ⟨digits, rfl | same, numeral, _⟩
  · exact numeral.1 rfl
  · exact absurd same (by simp)

/-- Reading a natural number succeeds on the texts that spell one in range. -/
theorem readNatural_eq_ok_iff {bound : Nat} {text : List Char} {result : Nat} :
    readNatural bound text = .ok result ↔ Spelled text result ∧ result ≤ bound := by
  cases text with
  | nil => exact iff_of_false (by simp [readNatural]) fun both => not_spelled_nil _ both.1
  | cons c rest =>
      by_cases plus : c = '+'
      · subst plus
        rw [spelled_plus_iff]
        cases rest with
        | nil =>
            refine iff_of_false (by simp [readNatural]) ?_
            rintro ⟨⟨numeral, _⟩, _⟩
            exact numeral.1 rfl
        | cons d rest =>
            simp only [readNatural]
            exact readDigits_zero_eq_ok_iff (by simp)
      · rw [spelled_cons_iff plus, ← readDigits_zero_eq_ok_iff (by simp)]
        simp [readNatural, plus]

theorem readInteger_of_isNumeral {bound value : Nat} {text : List Char}
    (numeral : IsNumeral text) (total : numeralValue text = value) (small : value ≤ bound) :
    readInteger bound text = .ok value := by
  obtain ⟨c, rest, rfl⟩ := List.exists_cons_of_ne_nil numeral.1
  have digit : c.isDigit = true := numeral.2 c List.mem_cons_self
  have read : readDigits bound .tooLarge 0 (c :: rest) = .ok value :=
    (readDigits_eq_ok_iff (Nat.zero_le bound)).mpr ⟨numeral.2, total, small⟩
  have notPlus : c ≠ '+' := by
    rintro rfl
    exact absurd digit (by decide)
  have notMinus : c ≠ '-' := by
    rintro rfl
    exact absurd digit (by decide)
  simp [readInteger, notPlus, notMinus, read, Except.map]

/-- A text that reads as a signed number has digits, and signs, and nothing else. -/
theorem isDigit_or_sign_of_readInteger {bound : Nat} {text : List Char} {result : Int}
    (read : readInteger bound text = .ok result) :
    ∀ c ∈ text, c.isDigit = true ∨ c = '+' ∨ c = '-' := by
  have digitsOf {bound : Nat} {overflow : NumeralFault} {digits : List Char} {change : Nat → Int}
      (read : (readDigits bound overflow 0 digits).map change = .ok result) :
      ∀ c ∈ digits, c.isDigit = true := by
    cases found : readDigits bound overflow 0 digits with
    | error fault => simp [found, Except.map] at read
    | ok value => exact ((readDigits_eq_ok_iff (Nat.zero_le bound)).mp found).1
  unfold readInteger at read
  split at read
  · exact nomatch read
  · exact nomatch read
  · exact nomatch read
  · exact List.forall_mem_cons.mpr ⟨.inr (.inl rfl), fun c member => .inl (digitsOf read c member)⟩
  · exact List.forall_mem_cons.mpr ⟨.inr (.inr rfl), fun c member => .inl (digitsOf read c member)⟩
  · exact fun c member => .inl (digitsOf read c member)

/-- A text reads as a 64-bit number exactly when it spells that number. -/
theorem uint64?_eq_some_iff {text : List Char} {id : UInt64} :
    uint64? text = some id ↔ Spelled text id.toNat := by
  have inRange := id.toNat_lt
  unfold uint64? readUInt64
  cases read : readNatural (UInt64.size - 1) text with
  | error fault =>
      refine iff_of_false (by simp [Except.map, Except.toOption]) fun spelled => ?_
      have found := readNatural_eq_ok_iff.mpr
        ⟨spelled, Nat.le_sub_one_of_lt inRange⟩
      exact absurd (read.symm.trans found) (by simp)
  | ok value =>
      obtain ⟨spelled, bounded⟩ := readNatural_eq_ok_iff.mp read
      have small : value < UInt64.size := Nat.lt_of_le_pred (by decide) bounded
      have same_iff : UInt64.ofNat value = id ↔ value = id.toNat := by
        rw [← UInt64.toNat_inj, UInt64.toNat_ofNat_of_lt' small]
      simp only [Except.map, Except.toOption, Option.some.injEq, same_iff]
      constructor
      · rintro rfl
        exact spelled
      · intro again
        have found := readNatural_eq_ok_iff.mpr
          ⟨again, Nat.le_sub_one_of_lt inRange⟩
        exact Except.ok.inj (read.symm.trans found)

end PageInjection.Text
