/-!
# Item by item

Doing something that may fail to every item of a list succeeds exactly when it succeeds on
each, and fails as it fails on one of them.
-/

namespace PageInjection

variable {ε α β : Type} {read : α → Except ε β} {items : List α}

theorem exists_mapM_eq_ok_iff :
    (∃ values, items.mapM read = .ok values) ↔ ∀ item ∈ items, ∃ value, read item = .ok value := by
  induction items with
  | nil => exact iff_of_true ⟨[], rfl⟩ nofun
  | cons item items ih =>
      rw [List.mapM_cons, List.forall_mem_cons, ← ih]
      constructor
      · rintro ⟨values, reads⟩
        cases first : read item with
        | error fault => rw [first] at reads; cases reads
        | ok value =>
            cases others : items.mapM read with
            | error fault => rw [first, others] at reads; cases reads
            | ok values => exact ⟨⟨value, rfl⟩, values, rfl⟩
      · rintro ⟨⟨value, first⟩, values, others⟩
        exact ⟨value :: values, by rw [first, others]; rfl⟩

theorem exists_of_mapM_eq_error {fault : ε} (fails : items.mapM read = .error fault) :
    ∃ item ∈ items, read item = .error fault := by
  induction items with
  | nil => cases fails
  | cons item items ih =>
      rw [List.mapM_cons] at fails
      cases first : read item with
      | error other =>
          rw [first] at fails
          cases fails
          exact ⟨item, List.mem_cons_self, first⟩
      | ok value =>
          cases others : items.mapM read with
          | error other =>
              rw [first, others] at fails
              cases fails
              obtain ⟨found, member, reads⟩ := ih others
              exact ⟨found, List.mem_cons_of_mem item member, reads⟩
          | ok values => rw [first, others] at fails; cases fails

end PageInjection
