import PageInjection.Json.Decode
import PageInjection.Proofs.Settings.Over

/-!
# Forms of a value

A value may be written in several ways.  A word that carries nothing is a text, or the only
member of an object.  A record is an object with its fields in any order, some of which may
be missing, or the list of its fields.  What is read depends on the value alone.
-/

namespace PageInjection.Json

/-- The forms of a word that carries nothing. -/
inductive IsWord (word : String) : Json → Prop where
  | text : IsWord word (.text word)
  | object : IsWord word (.object [(word, .null)])

/-- The forms of a record with values that its fields may have.  In an object each name
stands once and names that are no fields do not matter; in a list no field may be missing. -/
def IsRecord (fields : List String) (mayMiss : String → Prop) (takes : String → Json → Prop) :
    Json → Prop
  | .object members => (members.map (·.1)).Nodup ∧
      (∀ name value, (name, value) ∈ members → name ∈ fields → takes name value) ∧
      ∀ name ∈ fields, name ∈ members.map (·.1) ∨ mayMiss name
  | .list items => items.length = fields.length ∧
      ∀ name value, (name, value) ∈ fields.zip items → takes name value
  | _ => False

/-- The forms of the values of a type are read back.  What is written is such a form, each
form of a value gives the value, and what was read at all can be written and read again. -/
structure ReadsBack {α : Type} (IsValue : α → Prop) (write : α → Json) (read : Decoder α)
    (IsForm : α → Json → Prop) : Prop where
  written : ∀ value, IsValue value → IsForm value (write value)
  reads : ∀ value form, IsValue value → IsForm value form → read form = .ok value
  again : ∀ form value, read form = .ok value → read (write value) = .ok value

theorem ReadsBack.of_sound {α : Type} {IsValue : α → Prop} {write : α → Json} {read : Decoder α}
    {IsForm : α → Json → Prop} (written : ∀ value, IsValue value → IsForm value (write value))
    (reads : ∀ value form, IsValue value → IsForm value form → read form = .ok value)
    (sound : ∀ form value, read form = .ok value → IsValue value) :
    ReadsBack IsValue write read IsForm where
  written := written
  reads := reads
  again form value found :=
    have isValue := sound form value found
    reads value _ isValue (written value isValue)

theorem toWord_of_isWord {α : Type} {words : List (String × α)} {word : String} {found : α}
    (known : words.lookup word = some found) {form : Json} (isWord : IsWord word form) :
    toWord words form = .ok found := by
  have named : word ∈ words.map (·.1) := by
    obtain ⟨before, after, rfl, _⟩ := List.lookup_eq_some_iff.mp known
    simp
  have isKnown : (words.map (·.1)).contains word = true := List.contains_iff_mem.mpr named
  cases isWord with
  | text => simp only [toWord, toVariant, isKnown, if_true, known]; rfl
  | object => simp only [toWord, toVariant, isKnown, if_true, known]; rfl

namespace RecordShape

variable {δ α : Type} {shape : RecordShape δ α} {mayMiss : String → Prop}
  {takes : String → Json → Prop} {laidOver : (String → Bool) → δ} {value : α}

/-- What is read is a finished draft. -/
theorem exists_finish_of_decode {form : Json} (read : shape.decode form = .ok value) :
    ∃ draft, shape.finish draft = .ok value := by
  have finished {drafted : Except Refusal δ} (read : drafted.bind shape.finish = .ok value) :
      ∃ draft, shape.finish draft = .ok value := by
    cases drafted with
    | error refusal => exact nomatch read
    | ok draft => exact ⟨draft, read⟩
  cases form with
  | object members => exact finished read
  | list items => exact finished read
  | _ => exact nomatch read

/-- Fields that are read one by one into a draft make the value, once all are there that
must not be missing. -/
structure Makes (shape : RecordShape δ α) (mayMiss : String → Prop)
    (takes : String → Json → Prop) (laidOver : (String → Bool) → δ) (value : α) : Prop where
  sets : SetsOver shape.set shape.fields takes laidOver
  starts : laidOver (fun _ => false) = shape.draft
  finishes : ∀ chosen : String → Bool,
    (∀ name ∈ shape.fields, chosen name = true ∨ mayMiss name) →
      shape.finish (laidOver chosen) = .ok value

theorem Makes.decode_eq (makes : shape.Makes mayMiss takes laidOver value) {form : Json}
    (isRecord : IsRecord shape.fields mayMiss takes form) : shape.decode form = .ok value := by
  cases form with
  | object members =>
      obtain ⟨_, taken, all⟩ := isRecord
      have drafted := makes.sets.foldlM_eq taken fun _ => false
      rw [makes.starts] at drafted
      have finished := makes.finishes (fun name => false || (members.map (·.1)).contains name)
        fun name field => (all name field).imp_left fun member => by simpa using member
      rw [decode, drafted]
      exact finished
  | list items =>
      obtain ⟨full, taken⟩ := isRecord
      have drafted := makes.sets.foldlM_eq (fun name value member _ => taken name value member)
        fun _ => false
      rw [makes.starts] at drafted
      have named : (shape.fields.zip items).map (·.1) = shape.fields :=
        List.map_fst_zip (Nat.le_of_eq full.symm)
      rw [named] at drafted
      have finished := makes.finishes (fun name => false || shape.fields.contains name)
        fun name field => .inl (by simpa using field)
      rw [decode, setItems, drafted]
      simp only [bind, Except.bind, full, Nat.lt_irrefl, if_false]
      exact finished
  | _ => exact isRecord.elim

end RecordShape

end PageInjection.Json
