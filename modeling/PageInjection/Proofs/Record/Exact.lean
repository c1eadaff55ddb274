import PageInjection.Proofs.Text.Utf8
import PageInjection.Record

/-!
# Records in bytes

Taking a value from the front of a byte sequence succeeds exactly when the
sequence starts with what putting that value writes, and leaves what follows.
-/

namespace PageInjection.Record

private theorem bind_eq_ok_iff {α β : Type} {first : Except Fault α}
    {next : α → Except Fault β} {result : β} :
    (first >>= next) = .ok result ↔
      ∃ value, first = .ok value ∧ next value = .ok result := by
  cases first <;> simp [bind, Except.bind]

private theorem byte_eq_iff {byte : UInt8} {value : Nat} :
    byte = UInt8.ofNat (value % 256) ↔ byte.toNat = value % 256 := by
  rw [← UInt8.toNat_inj, UInt8.toNat_ofNat_of_lt' (Nat.mod_lt value (by decide))]

/-- The number can be written in so many bytes. -/
def Fits : (width value : Nat) → Prop
  | 0, value => value = 0
  | width + 1, value => Fits width (value / 256)

theorem takeNumber_eq_ok_iff {width value : Nat} {bytes rest : List UInt8} :
    takeNumber width bytes = .ok (value, rest) ↔
      Fits width value ∧ bytes = putNumber width value ++ rest := by
  induction width generalizing value bytes rest with
  | zero =>
      simp only [takeNumber, putNumber, Fits, Except.ok.injEq, Prod.mk.injEq, List.nil_append]
      exact and_congr_left' eq_comm
  | succ width ih =>
      cases bytes with
      | nil => simp [takeNumber, putNumber]
      | cons byte bytes =>
          have small := byte.toNat_lt
          simp only [takeNumber, bind_eq_ok_iff, Prod.exists, ih, putNumber, List.cons_append,
            List.cons.injEq, byte_eq_iff, pure, Except.pure, Except.ok.injEq, Prod.mk.injEq]
          constructor
          · rintro ⟨high, after, ⟨fits, rfl⟩, rfl, rfl⟩
            have low : (byte.toNat + 256 * high) % 256 = byte.toNat := by omega
            have shifted : (byte.toNat + 256 * high) / 256 = high := by omega
            rw [low, Fits, shifted]
            exact ⟨fits, rfl, rfl⟩
          · rintro ⟨fits, low, rfl⟩
            exact ⟨value / 256, rest, ⟨fits, rfl⟩, by omega, rfl⟩

theorem fits_four_iff {value : Nat} : Fits 4 value ↔ value < UInt32.size := by
  simp only [Fits, UInt32.size]
  omega

theorem fits_eight_iff {value : Nat} : Fits 8 value ↔ value < UInt64.size := by
  simp only [Fits, UInt64.size]
  omega

/-- The size of the text in bytes is a 64-bit number, like the size of any text in
memory, and can be written in front of the text. -/
def IsStorable (text : String) : Prop :=
  text.utf8ByteSize < UInt64.size

instance (text : String) : Decidable (IsStorable text) :=
  inferInstanceAs (Decidable (text.utf8ByteSize < UInt64.size))

private theorem throw_ne_ok {α : Type} (fault : Fault) (result : α) :
    (throw fault : Except Fault α) ≠ .ok result := by
  simp [throw, throwThe, MonadExceptOf.throw]

theorem takeText_eq_ok_iff {text : String} {bytes rest : List UInt8} :
    takeText bytes = .ok (text, rest) ↔ IsStorable text ∧ bytes = putText text ++ rest := by
  simp only [takeText, bind_eq_ok_iff, Prod.exists, takeNumber_eq_ok_iff, fits_eight_iff]
  constructor
  · rintro ⟨length, after, ⟨inRange, rfl⟩, taken⟩
    split at taken
    · exact absurd taken (throw_ne_ok _ _)
    · rename_i enough
      cases decoded : Text.decode (after.take length) with
      | error fault => simp [decoded, throw_ne_ok] at taken
      | ok decodedText =>
          rw [decoded] at taken
          obtain ⟨rfl, rfl⟩ := Prod.mk.inj (Except.ok.inj taken)
          have encoded := Text.decode_eq_ok_iff.mp decoded
          have size : (after.take length).length = length :=
            List.length_take_of_le (Nat.le_of_not_lt enough)
          simp only [IsStorable, putText, ← Text.length_encode, String.toList_ofList, encoded,
            size, List.append_assoc, List.take_append_drop, and_true]
          exact inRange
  · rintro ⟨storable, rfl⟩
    refine ⟨(Text.encode text.toList).length, Text.encode text.toList ++ rest,
      ⟨by rwa [Text.length_encode], by simp [putText]⟩, ?_⟩
    have enough : ¬ (Text.encode text.toList ++ rest).length <
        (Text.encode text.toList).length := by simp
    simp only [enough, if_false, List.take_left, List.drop_left, Text.decode_encode,
      String.ofList_toList]
    rfl

theorem ofRank?_eq_some_iff {kind : FragmentKind} {rank : Nat} :
    FragmentKind.ofRank? rank = some kind ↔ rank = kind.rank := by
  constructor
  · intro found
    unfold FragmentKind.ofRank? at found
    split at found
    all_goals simp only [reduceCtorEq, Option.some.injEq] at found
    all_goals rw [← found]; rfl
  · rintro rfl
    exact FragmentKind.ofRank?_rank kind

theorem takeKind_eq_ok_iff {kind : FragmentKind} {bytes rest : List UInt8} :
    takeKind bytes = .ok (kind, rest) ↔ bytes = putKind kind ++ rest := by
  simp only [takeKind, putKind, bind_eq_ok_iff, Prod.exists, takeNumber_eq_ok_iff]
  constructor
  · rintro ⟨rank, after, ⟨_, rfl⟩, taken⟩
    cases found : FragmentKind.ofRank? rank with
    | none => simp [found, throw_ne_ok] at taken
    | some foundKind =>
        rw [found] at taken
        obtain ⟨rfl, rfl⟩ := Prod.mk.inj (Except.ok.inj taken)
        rw [ofRank?_eq_some_iff.mp found]
  · rintro rfl
    have small : Fits 4 kind.rank := by
      rw [fits_four_iff]
      cases kind <;> decide
    exact ⟨kind.rank, rest, ⟨small, rfl⟩, by simp [pure, Except.pure]⟩

private theorem takeId_eq_ok_iff {id : ResourceId} {bytes rest : List UInt8} :
    (∃ value, takeNumber 8 bytes = .ok (value, rest) ∧ UInt64.ofNat value = id) ↔
      bytes = putNumber 8 id.toNat ++ rest := by
  simp only [takeNumber_eq_ok_iff, fits_eight_iff]
  constructor
  · rintro ⟨value, ⟨inRange, rfl⟩, rfl⟩
    rw [UInt64.toNat_ofNat_of_lt' inRange]
  · rintro rfl
    exact ⟨id.toNat, ⟨id.toNat_lt, rfl⟩, UInt64.ofNat_toNat⟩

theorem takeScope_eq_ok_iff {scope : Scope} {bytes rest : List UInt8} :
    takeScope bytes = .ok (scope, rest) ↔ bytes = putScope scope ++ rest := by
  simp only [takeScope, bind_eq_ok_iff, Prod.exists]
  constructor
  · rintro ⟨variant, after, front, taken⟩
    obtain ⟨_, rfl⟩ := takeNumber_eq_ok_iff.mp front
    split at taken
    · obtain ⟨rfl, rfl⟩ := Prod.mk.inj (Except.ok.inj taken)
      rfl
    · obtain ⟨⟨value, afterId⟩, idFront, taken⟩ := bind_eq_ok_iff.mp taken
      obtain ⟨rfl, rfl⟩ := Prod.mk.inj (Except.ok.inj taken)
      rw [takeId_eq_ok_iff.mp ⟨value, idFront, rfl⟩, putScope, List.append_assoc]
    · exact absurd taken (throw_ne_ok _ _)
  · rintro rfl
    cases scope with
    | global =>
        exact ⟨0, rest, takeNumber_eq_ok_iff.mpr ⟨fits_four_iff.mpr (by decide), rfl⟩, rfl⟩
    | resource id =>
        refine ⟨1, putNumber 8 id.toNat ++ rest,
          takeNumber_eq_ok_iff.mpr ⟨fits_four_iff.mpr (by decide), List.append_assoc _ _ _⟩, ?_⟩
        obtain ⟨value, front, same⟩ := takeId_eq_ok_iff.mpr (rfl : _ = putNumber 8 id.toNat ++ rest)
        exact bind_eq_ok_iff.mpr ⟨(value, rest), front, by rw [same]; rfl⟩

theorem takeTime_eq_ok_iff {time : Int64} {bytes rest : List UInt8} :
    takeTime bytes = .ok (time, rest) ↔ bytes = putTime time ++ rest := by
  simp only [takeTime, putTime, bind_eq_ok_iff, Prod.exists, pure, Except.pure,
    Except.ok.injEq, Prod.mk.injEq, ← takeId_eq_ok_iff]
  constructor
  · rintro ⟨value, after, front, rfl, rfl⟩
    exact ⟨value, front, by simp⟩
  · rintro ⟨value, front, same⟩
    exact ⟨value, rest, front, by simp [same], rfl⟩

/-- A record is taken exactly when its bytes stand at the front. -/
theorem takeStored_eq_ok_iff {stored : StoredFragment} {bytes rest : List UInt8} :
    takeStored bytes = .ok (stored, rest) ↔
      IsStorable stored.fragment.content ∧ bytes = putStored stored ++ rest := by
  simp only [takeStored, bind_eq_ok_iff, Prod.exists, takeKind_eq_ok_iff,
    takeScope_eq_ok_iff, takeText_eq_ok_iff, takeTime_eq_ok_iff, pure, Except.pure,
    Except.ok.injEq, Prod.mk.injEq]
  constructor
  · rintro ⟨kind, _, rfl, scope, _, rfl, content, _, ⟨storable, rfl⟩, time, _, rfl, rfl, rfl⟩
    exact ⟨storable, by simp [putStored]⟩
  · rintro ⟨storable, rfl⟩
    exact ⟨_, _, by simp only [putStored, List.append_assoc], _, _, rfl, _, _,
      ⟨storable, rfl⟩, _, _, rfl, rfl, rfl⟩

end PageInjection.Record
