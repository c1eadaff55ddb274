import PageInjection.Text.Utf8

/-!
# Encoding and decoding characters

The decoder accepts exactly what the encoder writes: the bytes of one character
have one of four forms, and reading a character finds that form at the front.
-/

namespace PageInjection.Text

private theorem ofNat_eq_iff {value : Nat} {byte : UInt8} (small : value < 256) :
    UInt8.ofNat value = byte ↔ value = byte.toNat := by
  rw [← UInt8.toNat_inj, UInt8.toNat_ofNat_of_lt' small]

theorem toNat_range (c : Char) :
    c.toNat < 0xD800 ∨ 0xDFFF < c.toNat ∧ c.toNat < 0x110000 :=
  c.valid

theorem toNat_ofNat {value : Nat} (scalar : value.isValidChar) :
    (Char.ofNat value).toNat = value := by
  unfold Char.ofNat
  rw [dif_pos scalar]
  rfl

/-! ## The four forms -/

theorem isTail_iff {byte : Nat} : isTail byte = true ↔ 0x80 ≤ byte ∧ byte ≤ 0xBF := by
  simp [isTail]

theorem isSecond_iff {lead byte : Nat} :
    isSecond lead byte = true ↔ (0x80 ≤ byte ∧ byte ≤ 0xBF) ∧
      (lead = 0xE0 → 0xA0 ≤ byte) ∧ (lead = 0xED → byte ≤ 0x9F) ∧
      (lead = 0xF0 → 0x90 ≤ byte) ∧ (lead = 0xF4 → byte ≤ 0x8F) := by
  simp only [isSecond, beq_iff_eq, isTail]
  repeat' split
  all_goals simp only [Bool.and_eq_true, decide_eq_true_eq]
  all_goals omega

theorem encodeChar_eq_one_iff {c : Char} {first : UInt8} :
    encodeChar c = [first] ↔ first.toNat < 0x80 ∧ c.toNat = first.toNat := by
  simp only [encodeChar]
  repeat' split
  all_goals simp only [List.cons.injEq, reduceCtorEq, and_true, and_false, false_iff]
  · rw [ofNat_eq_iff (by omega)]
    omega
  all_goals omega

theorem encodeChar_eq_two_iff {c : Char} {first second : UInt8} :
    encodeChar c = [first, second] ↔
      (0xC2 ≤ first.toNat ∧ first.toNat < 0xE0) ∧ isTail second.toNat = true ∧
        c.toNat = (first.toNat - 0xC0) * 64 + (second.toNat - 0x80) := by
  simp only [encodeChar, isTail_iff]
  repeat' split
  all_goals simp only [List.cons.injEq, reduceCtorEq, and_true, and_false, false_iff]
  · omega
  · rw [ofNat_eq_iff (by omega), ofNat_eq_iff (by omega)]
    omega
  all_goals omega

theorem encodeChar_eq_three_iff {c : Char} {first second third : UInt8} :
    encodeChar c = [first, second, third] ↔
      (0xE0 ≤ first.toNat ∧ first.toNat < 0xF0) ∧
        isSecond first.toNat second.toNat = true ∧ isTail third.toNat = true ∧
        c.toNat = (first.toNat - 0xE0) * 4096 + (second.toNat - 0x80) * 64 +
          (third.toNat - 0x80) := by
  have scalar := toNat_range c
  simp only [encodeChar, isTail_iff, isSecond_iff]
  repeat' split
  all_goals simp only [List.cons.injEq, reduceCtorEq, and_true, and_false, false_iff]
  · omega
  · omega
  · rw [ofNat_eq_iff (by omega), ofNat_eq_iff (by omega), ofNat_eq_iff (by omega)]
    omega
  · omega

theorem encodeChar_eq_four_iff {c : Char} {first second third fourth : UInt8} :
    encodeChar c = [first, second, third, fourth] ↔
      (0xF0 ≤ first.toNat ∧ first.toNat < 0xF5) ∧
        isSecond first.toNat second.toNat = true ∧ isTail third.toNat = true ∧
        isTail fourth.toNat = true ∧
        c.toNat = (first.toNat - 0xF0) * 262144 + (second.toNat - 0x80) * 4096 +
          (third.toNat - 0x80) * 64 + (fourth.toNat - 0x80) := by
  have scalar := toNat_range c
  simp only [encodeChar, isTail_iff, isSecond_iff]
  repeat' split
  all_goals simp only [List.cons.injEq, reduceCtorEq, and_true, and_false, false_iff]
  · omega
  · omega
  · omega
  · rw [ofNat_eq_iff (by omega), ofNat_eq_iff (by omega), ofNat_eq_iff (by omega),
      ofNat_eq_iff (by omega)]
    omega

/-- Every character has one of the four forms. -/
theorem encodeChar_cases (c : Char) :
    (∃ first, encodeChar c = [first]) ∨
      (∃ first second, encodeChar c = [first, second]) ∨
      (∃ first second third, encodeChar c = [first, second, third]) ∨
      ∃ first second third fourth, encodeChar c = [first, second, third, fourth] := by
  simp only [encodeChar]
  repeat' split
  · exact .inl ⟨_, rfl⟩
  · exact .inr (.inl ⟨_, _, rfl⟩)
  · exact .inr (.inr (.inl ⟨_, _, _, rfl⟩))
  · exact .inr (.inr (.inr ⟨_, _, _, _, rfl⟩))

theorem encodeChar_ne_nil (c : Char) : encodeChar c ≠ [] := by
  rcases encodeChar_cases c with ⟨_, form⟩ | ⟨_, _, form⟩ | ⟨_, _, _, form⟩ |
    ⟨_, _, _, _, form⟩ <;> simp [form]

theorem length_encodeChar (c : Char) : (encodeChar c).length = c.utf8Size := by
  have code : c.val.toNat = c.toNat := rfl
  unfold encodeChar Char.utf8Size
  simp only [UInt32.le_iff_toNat_le, code]
  repeat' split
  all_goals simp at *
  all_goals omega

/-- The bytes of a text are as many as its size says. -/
theorem length_encode (text : String) : (encode text.toList).length = text.utf8ByteSize := by
  obtain ⟨letters, rfl⟩ : ∃ letters, text = String.ofList letters :=
    ⟨text.toList, String.ofList_toList.symm⟩
  rw [String.toList_ofList]
  induction letters with
  | nil => rfl
  | cons c rest ih =>
      have cut : encode (c :: rest) = encodeChar c ++ encode rest := rfl
      have whole : String.ofList (c :: rest) = String.singleton c ++ String.ofList rest := by
        rw [← List.singleton_append, String.ofList_append]
        rfl
      rw [cut, List.length_append, length_encodeChar, ih, whole,
        String.utf8ByteSize_append, String.utf8ByteSize_singleton]

/-! ## Reading one character -/

/-- What stands behind the bytes of a character has no part in reading it. -/
theorem decodeChar_of_encodeChar {c : Char} {lead : UInt8} {tail : List UInt8}
    (form : encodeChar c = lead :: tail) (rest : List UInt8) :
    decodeChar lead (tail ++ rest) = .char c (encodeChar c).length := by
  have value := Char.ofNat_toNat c
  rcases encodeChar_cases c with ⟨first, one⟩ | ⟨first, second, two⟩ |
    ⟨first, second, third, three⟩ | ⟨first, second, third, fourth, four⟩
  · rw [one] at form ⊢
    obtain ⟨rfl, rfl⟩ := List.cons.inj form
    obtain ⟨range, code⟩ := encodeChar_eq_one_iff.mp one
    rw [code] at value
    simp [decodeChar, range, value]
  · rw [two] at form ⊢
    obtain ⟨rfl, rfl⟩ := List.cons.inj form
    obtain ⟨range, secondTail, code⟩ := encodeChar_eq_two_iff.mp two
    have notOne : ¬ first.toNat < 0x80 := by omega
    have long : ¬ first.toNat < 0xC2 := by omega
    rw [code] at value
    simp [decodeChar, notOne, long, range.2, secondTail, value]
  · rw [three] at form ⊢
    obtain ⟨rfl, rfl⟩ := List.cons.inj form
    obtain ⟨range, secondTail, thirdTail, code⟩ := encodeChar_eq_three_iff.mp three
    have notOne : ¬ first.toNat < 0x80 := by omega
    have long : ¬ first.toNat < 0xC2 := by omega
    have notTwo : ¬ first.toNat < 0xE0 := by omega
    rw [code] at value
    simp [decodeChar, notOne, long, notTwo, range.2, secondTail, thirdTail, value]
  · rw [four] at form ⊢
    obtain ⟨rfl, rfl⟩ := List.cons.inj form
    obtain ⟨range, secondTail, thirdTail, fourthTail, code⟩ := encodeChar_eq_four_iff.mp four
    have notOne : ¬ first.toNat < 0x80 := by omega
    have long : ¬ first.toNat < 0xC2 := by omega
    have notTwo : ¬ first.toNat < 0xE0 := by omega
    have notThree : ¬ first.toNat < 0xF0 := by omega
    rw [code] at value
    simp [decodeChar, notOne, long, notTwo, notThree, range.2, secondTail, thirdTail,
      fourthTail, value]

theorem encodeChar_of_decodeChar {c : Char} {lead : UInt8} {rest : List UInt8} {width : Nat}
    (read : decodeChar lead rest = .char c width) :
    ∃ tail after, encodeChar c = lead :: tail ∧ rest = tail ++ after ∧
      width = (encodeChar c).length := by
  unfold decodeChar at read
  dsimp only at read
  repeat' split at read
  all_goals simp only [reduceCtorEq, LeadingChar.char.injEq] at read
  · rename_i one
    obtain ⟨rfl, rfl⟩ := read
    have form := encodeChar_eq_one_iff.mpr ⟨one, toNat_ofNat (.inl (by omega))⟩
    exact ⟨[], rest, form, rfl, by rw [form]; rfl⟩
  · rename_i notOne long two _ second after secondTail
    obtain ⟨rfl, rfl⟩ := read
    have inRange := isTail_iff.mp secondTail
    have form := encodeChar_eq_two_iff.mpr
      ⟨⟨by omega, two⟩, secondTail, toNat_ofNat (.inl (by omega))⟩
    exact ⟨[second], after, form, rfl, by rw [form]; rfl⟩
  · rename_i notOne long notTwo three _ second secondTail _ third after thirdTail
    obtain ⟨rfl, rfl⟩ := read
    have inRange := isSecond_iff.mp secondTail
    have thirdRange := isTail_iff.mp thirdTail
    have form := encodeChar_eq_three_iff.mpr
      ⟨⟨by omega, three⟩, secondTail, thirdTail,
        toNat_ofNat (by unfold Nat.isValidChar; omega)⟩
    exact ⟨[second, third], after, form, rfl, by rw [form]; rfl⟩
  · rename_i notOne long notTwo notThree four _ second secondTail _ third thirdTail
      _ fourth after fourthTail
    obtain ⟨rfl, rfl⟩ := read
    have inRange := isSecond_iff.mp secondTail
    have thirdRange := isTail_iff.mp thirdTail
    have fourthRange := isTail_iff.mp fourthTail
    have form := encodeChar_eq_four_iff.mpr
      ⟨⟨by omega, four⟩, secondTail, thirdTail, fourthTail,
        toNat_ofNat (.inr (by omega))⟩
    exact ⟨[second, third, fourth], after, form, rfl, by rw [form]; rfl⟩

/-! ## Reading a text -/

theorem decodeFrom_skip (index skip : Nat) (bytes : List UInt8) :
    decodeFrom index skip bytes = decodeFrom (index + skip) 0 (bytes.drop skip) := by
  induction bytes generalizing index skip with
  | nil => simp [decodeFrom]
  | cons byte rest ih =>
      cases skip with
      | zero => simp
      | succ skip =>
          rw [decodeFrom, ih, List.drop_succ_cons, Nat.add_right_comm, Nat.add_assoc]

theorem decodeFrom_encodeChar (index : Nat) (c : Char) (rest : List UInt8) :
    decodeFrom index 0 (encodeChar c ++ rest) =
      (decodeFrom (index + (encodeChar c).length) 0 rest).map (c :: ·) := by
  obtain ⟨lead, tail, form⟩ := List.exists_cons_of_ne_nil (encodeChar_ne_nil c)
  have width : (encodeChar c).length = tail.length + 1 := by rw [form]; rfl
  have read := decodeChar_of_encodeChar form rest
  rw [width] at read
  rw [width, form, List.cons_append, decodeFrom]
  simp only [read, Nat.add_sub_cancel]
  rw [decodeFrom_skip, List.drop_left, Nat.add_assoc, Nat.add_comm 1]
  rfl

theorem decodeFrom_eq_ok_iff {index : Nat} {bytes : List UInt8} {text : List Char} :
    decodeFrom index 0 bytes = .ok text ↔ encode text = bytes := by
  constructor
  · intro read
    induction size : bytes.length using Nat.strongRecOn generalizing index bytes text with
    | ind _ ih =>
        cases bytes with
        | nil =>
            obtain rfl := Except.ok.inj read
            rfl
        | cons lead rest =>
            cases first : decodeChar lead rest with
            | invalid width => simp [decodeFrom, first] at read
            | incomplete => simp [decodeFrom, first] at read
            | char c width =>
                obtain ⟨tail, after, form, rfl, _⟩ := encodeChar_of_decodeChar first
                rw [← List.cons_append, ← form, decodeFrom_encodeChar] at read
                cases remaining : decodeFrom (index + (encodeChar c).length) 0 after with
                | error fault => simp [remaining, Except.map] at read
                | ok others =>
                    rw [remaining] at read
                    obtain rfl := Except.ok.inj read
                    have shorter : after.length < (lead :: (tail ++ after)).length := by
                      simp only [List.length_cons, List.length_append]
                      omega
                    have encoded := ih after.length (size ▸ shorter) remaining rfl
                    simp [encode, form, ← encoded]
  · rintro rfl
    induction text generalizing index with
    | nil => rfl
    | cons c rest ih =>
        have cut : encode (c :: rest) = encodeChar c ++ encode rest := rfl
        rw [cut, decodeFrom_encodeChar, ih]
        rfl

/-- Decoding succeeds exactly on the encoding of the text it gives. -/
theorem decode_eq_ok_iff {bytes : List UInt8} {text : List Char} :
    decode bytes = .ok text ↔ encode text = bytes :=
  decodeFrom_eq_ok_iff

@[simp] theorem decode_encode (text : List Char) : decode (encode text) = .ok text :=
  decode_eq_ok_iff.mpr rfl

end PageInjection.Text
