/-!
# Entries under keys

Among entries whose keys are distinct, what is found under a key and what stands among the
entries are the same.
-/

namespace PageInjection

variable {Key Value : Type} [BEq Key] [LawfulBEq Key] {entries : List (Key × Value)} {key : Key}
  {value : Value}

theorem lookup_cons_of_ne {other : Key} (different : other ≠ key) :
    ((key, value) :: entries).lookup other = entries.lookup other := by
  rw [List.lookup_cons, beq_eq_false_iff_ne.mpr different]

theorem mem_of_lookup_eq_some (found : entries.lookup key = some value) :
    (key, value) ∈ entries := by
  obtain ⟨before, after, rfl, _⟩ := List.lookup_eq_some_iff.mp found
  exact List.mem_append_right before List.mem_cons_self

theorem mem_iff_lookup_eq_some (distinct : (entries.map (·.1)).Nodup) :
    (key, value) ∈ entries ↔ entries.lookup key = some value := by
  refine ⟨fun member => ?_, mem_of_lookup_eq_some⟩
  induction entries with
  | nil => exact nomatch member
  | cons entry entries ih =>
      obtain ⟨head, first⟩ := entry
      simp only [List.map_cons, List.nodup_cons] at distinct
      rcases List.mem_cons.mp member with same | later
      · cases same
        exact List.lookup_cons_self
      · have different : key ≠ head := by
          rintro rfl
          exact distinct.1 (List.mem_map.mpr ⟨_, later, rfl⟩)
        rw [lookup_cons_of_ne different]
        exact ih distinct.2 later

theorem isSome_lookup_iff : (entries.lookup key).isSome = true ↔ key ∈ entries.map (·.1) := by
  rw [← Option.ne_none_iff_isSome, Ne, List.lookup_eq_none_iff]
  simp

end PageInjection
