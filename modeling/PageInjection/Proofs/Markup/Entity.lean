import PageInjection.Markup.Escape

/-!
# Escaping is undone exactly

Every character that HTML cannot hold leaves as an entity, and reading the
entities back from left to right gives the text again.
-/

namespace PageInjection.Markup

/-- The characters that leave as an entity. -/
def special : List Char := ['&', '<', '>', '"', '\'']

theorem mem_special_iff {c : Char} :
    c ∈ special ↔ c = '&' ∨ c = '<' ∨ c = '>' ∨ c = '"' ∨ c = '\'' := by
  simp [special]

theorem entity_of_not_mem {c : Char} (plain : c ∉ special) : entity c = [c] := by
  simp only [mem_special_iff, not_or] at plain
  simp [entity, plain]

theorem unescape_cons_of_ne {c : Char} (plain : c ≠ '&') (rest : List Char) :
    unescape (c :: rest) = c :: unescape rest := by
  conv => lhs; unfold unescape
  split <;> simp_all

theorem unescape_entity_append (c : Char) (rest : List Char) :
    unescape (entity c ++ rest) = c :: unescape rest := by
  by_cases isSpecial : c ∈ special
  · rcases mem_special_iff.mp isSpecial with rfl | rfl | rfl | rfl | rfl <;> rfl
  · rw [entity_of_not_mem isSpecial]
    apply unescape_cons_of_ne
    rintro rfl
    exact isSpecial (by decide)

@[simp] theorem escape_nil : escape [] = [] := rfl

@[simp] theorem escape_cons (c : Char) (text : List Char) :
    escape (c :: text) = entity c ++ escape text := rfl

/-- Reading the entities back undoes escaping. -/
theorem unescape_escape (text : List Char) : unescape (escape text) = text := by
  induction text with
  | nil => simp [unescape]
  | cons c text ih => rw [escape_cons, unescape_entity_append, ih]

private theorem not_mem_entity {c d : Char} (isSpecial : c ∈ special) (other : c ≠ '&')
    (written : d ∈ special) : c ∉ entity d := by
  rcases mem_special_iff.mp isSpecial with rfl | rfl | rfl | rfl | rfl
  · exact absurd rfl other
  all_goals
    rcases mem_special_iff.mp written with rfl | rfl | rfl | rfl | rfl <;> decide

/-- Of the characters that leave as entities only `&` occurs in what is written. -/
theorem not_mem_escape {c : Char} (isSpecial : c ∈ special) (other : c ≠ '&')
    (text : List Char) : c ∉ escape text := by
  induction text with
  | nil => simp
  | cons d text ih =>
      rw [escape_cons, List.mem_append]
      rintro (inEntity | later)
      · by_cases written : d ∈ special
        · exact not_mem_entity isSpecial other written inEntity
        · rw [entity_of_not_mem written] at inEntity
          exact written (List.mem_singleton.mp inEntity ▸ isSpecial)
      · exact ih later

end PageInjection.Markup
