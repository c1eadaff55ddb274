import PageInjection.Proofs.Record.Exact
import PageInjection.Store.Database

/-!
# Exact codecs

A codec is exact when bytes are read as a value just when they start with what
writing the value gives.  Then nothing that is cut short is read, no bytes start
with two values, and what is read is written back as it stood.  The records and
the rule text of the database are kept by exact codecs.
-/

namespace PageInjection.Record

variable {Value : Type}

/-- Writing, taking from the front and reading are one codec, in which every value
that is storable has its own bytes. -/
structure IsExact (storable : Value → Prop) (put : Value → List UInt8)
    (take : List UInt8 → Except Fault (Value × List UInt8))
    (read : List UInt8 → Except StoreFault Value) : Prop where
  read_iff : ∀ bytes value,
    read bytes = .ok value ↔ storable value ∧ put value <+: bytes
  /-- What is as short as the bytes of any memory is read without a condition. -/
  read_iff_of_length : ∀ bytes value, bytes.length < UInt64.size →
    (read bytes = .ok value ↔ put value <+: bytes)
  undoes : ∀ value rest, storable value → read (put value ++ rest) = .ok value
  refuses : ∀ value bytes, storable value → bytes <+: put value → bytes ≠ put value →
    ∃ reason, read bytes = .error (.encoding reason)
  unique : ∀ bytes left right, storable left → storable right →
    put left <+: bytes → put right <+: bytes → left = right
  rewrites : ∀ bytes value, read bytes = .ok value →
    ∃ rest, take bytes = .ok (value, rest) ∧ put value ++ rest = bytes

theorem decoded_eq_ok_iff {result : Except Fault Value} {value : Value} :
    Database.decoded result = .ok value ↔ result = .ok value := by
  cases result <;> simp [Database.decoded]

theorem exists_of_decoded_eq_error {result : Except Fault Value} {fault : StoreFault}
    (failed : Database.decoded result = .error fault) : ∃ reason, fault = .encoding reason := by
  cases result with
  | ok value => simp [Database.decoded] at failed
  | error found => exact ⟨found.message, (Except.error.inj failed).symm⟩

private theorem decoded_map_eq_ok_iff {taken : Except Fault (Value × List UInt8)}
    {value : Value} :
    Database.decoded (taken.map (·.1)) = .ok value ↔ ∃ rest, taken = .ok (value, rest) := by
  rw [decoded_eq_ok_iff]
  cases taken with
  | error fault => simp [Except.map]
  | ok front => simp [Except.map, Prod.ext_iff]

section Exact

variable {storable : Value → Prop} {put : Value → List UInt8}
  {take : List UInt8 → Except Fault (Value × List UInt8)}

/-- A codec is exact when values are taken from the front exactly, and whatever is
written in the bytes of a memory is storable. -/
theorem IsExact.of_take
    (taken : ∀ value bytes rest,
      take bytes = .ok (value, rest) ↔ storable value ∧ bytes = put value ++ rest)
    (short : ∀ value, (put value).length < UInt64.size → storable value) :
    IsExact storable put take fun bytes => Database.decoded ((take bytes).map (·.1)) := by
  have readIff : ∀ bytes value,
      Database.decoded ((take bytes).map (·.1)) = .ok value ↔
        storable value ∧ put value <+: bytes := by
    intro bytes value
    simp only [decoded_map_eq_ok_iff, taken]
    constructor
    · rintro ⟨rest, holds, rfl⟩
      exact ⟨holds, List.prefix_append _ _⟩
    · rintro ⟨holds, rest, rfl⟩
      exact ⟨rest, holds, rfl⟩
  have unique : ∀ bytes left right, storable left → storable right →
      put left <+: bytes → put right <+: bytes → left = right := by
    intro bytes left right leftStorable rightStorable leftFront rightFront
    have leftRead := (readIff bytes left).mpr ⟨leftStorable, leftFront⟩
    have rightRead := (readIff bytes right).mpr ⟨rightStorable, rightFront⟩
    exact Except.ok.inj (leftRead.symm.trans rightRead)
  refine ⟨readIff, ?_, ?_, ?_, unique, ?_⟩
  · intro bytes value inMemory
    rw [readIff]
    refine and_iff_right_of_imp fun front => short value ?_
    exact Nat.lt_of_le_of_lt front.length_le inMemory
  · intro value rest holds
    exact (readIff _ _).mpr ⟨holds, List.prefix_append _ _⟩
  · intro value bytes holds cut shorter
    cases result : Database.decoded ((take bytes).map (·.1)) with
    | error fault =>
        obtain ⟨reason, rfl⟩ := exists_of_decoded_eq_error result
        exact ⟨reason, rfl⟩
    | ok other =>
        -- what is read from the part would be read from the whole
        obtain ⟨otherStorable, otherFront⟩ := (readIff bytes other).mp result
        have same : other = value :=
          unique (put value) other value otherStorable holds (otherFront.trans cut)
            (List.prefix_refl _)
        rw [same] at otherFront
        exact absurd (cut.eq_of_length_le otherFront.length_le) shorter
  · intro bytes value read
    obtain ⟨rest, front⟩ := decoded_map_eq_ok_iff.mp read
    exact ⟨rest, front, ((taken value bytes rest).mp front).2.symm⟩

end Exact

theorem isStorable_of_length_putText {text : String}
    (short : (putText text).length < UInt64.size) : IsStorable text := by
  rw [putText, List.length_append, Text.length_encode] at short
  exact Nat.lt_of_le_of_lt (Nat.le_add_left _ _) short

theorem isStorable_of_length_putStored {stored : StoredFragment}
    (short : (putStored stored).length < UInt64.size) :
    IsStorable stored.fragment.content := by
  apply isStorable_of_length_putText
  simp only [putStored, List.length_append] at short
  omega

theorem stored_isExact :
    IsExact (fun stored : StoredFragment => IsStorable stored.fragment.content)
      putStored takeStored fun bytes => Database.decoded (readStored bytes) :=
  .of_take (fun _ _ _ => takeStored_eq_ok_iff) fun _ => isStorable_of_length_putStored

theorem text_isExact :
    IsExact IsStorable putText takeText fun bytes => Database.decoded (readText bytes) :=
  .of_take (fun _ _ _ => takeText_eq_ok_iff) fun _ => isStorable_of_length_putText

/-- The records of fragments and the rule text are written and read exactly. -/
theorem records_and_rule_texts_are_exact :
    IsExact (fun stored : StoredFragment => IsStorable stored.fragment.content)
        putStored takeStored (fun bytes => Database.decoded (readStored bytes)) ∧
      IsExact IsStorable putText takeText (fun bytes => Database.decoded (readText bytes)) :=
  ⟨stored_isExact, text_isExact⟩

end PageInjection.Record
