import PageInjection.Proofs.Markup.Entity

/-!
# Escaped texts

What escaping writes is known exactly: texts without the four characters that markup and
attributes cannot hold, in which every `&` begins one of the five entities.  Such a text
is cut into entities and other characters in one way only, so that escaping undoes the
reading of entities on it.
-/

namespace PageInjection.Markup

/-- The five entities. -/
def entities : List (List Char) :=
  [['&', 'a', 'm', 'p', ';'], ['&', 'l', 't', ';'], ['&', 'g', 't', ';'],
    ['&', 'q', 'u', 'o', 't', ';'], ['&', '#', '0', '3', '9', ';']]

/-- No bare special character but `&`, and that only where an entity begins. -/
structure IsEscaped (written : List Char) : Prop where
  bare : ∀ c ∈ written, c ≠ '<' ∧ c ≠ '>' ∧ c ≠ '"' ∧ c ≠ '\''
  marked : ∀ before after, written = before ++ '&' :: after →
    ∃ name ∈ entities, name <+: '&' :: after

theorem mem_entities_iff {name : List Char} :
    name ∈ entities ↔ ∃ c ∈ special, entity c = name := by
  have same : entities = special.map entity := by decide
  rw [same, List.mem_map]

/-- Behind its first character an entity holds nothing special. -/
theorem exists_entity_eq_cons {c : Char} (isSpecial : c ∈ special) :
    ∃ name, entity c = '&' :: name ∧ ∀ d ∈ name, d ∉ special := by
  rcases mem_special_iff.mp isSpecial with rfl | rfl | rfl | rfl | rfl <;>
    exact ⟨_, rfl, by simp [special]⟩

namespace IsEscaped

variable {c : Char} {front back rest written : List Char}

theorem nil : IsEscaped [] where
  bare := by simp
  marked := by simp

theorem of_append (escaped : IsEscaped (front ++ back)) : IsEscaped back where
  bare c member := escaped.bare c (List.mem_append_right front member)
  marked before after split :=
    escaped.marked (front ++ before) after (by rw [split, List.append_assoc])

theorem cons (plain : c ∉ special) (escaped : IsEscaped rest) : IsEscaped (c :: rest) := by
  simp only [mem_special_iff, not_or] at plain
  obtain ⟨notMark, others⟩ := plain
  refine ⟨List.forall_mem_cons.mpr ⟨others, escaped.bare⟩, ?_⟩
  intro before after split
  cases before with
  | nil => exact absurd (List.cons.inj split).1 notMark
  | cons _ before => exact escaped.marked before after (List.cons.inj split).2

theorem append (plain : ∀ c ∈ front, c ∉ special) (escaped : IsEscaped back) :
    IsEscaped (front ++ back) := by
  induction front with
  | nil => exact escaped
  | cons c front ih =>
      rw [List.forall_mem_cons] at plain
      exact (ih plain.2).cons plain.1

theorem entity_append (isSpecial : c ∈ special) (escaped : IsEscaped rest) :
    IsEscaped (entity c ++ rest) := by
  obtain ⟨name, shape, plain⟩ := exists_entity_eq_cons isSpecial
  have behind : IsEscaped (name ++ rest) := escaped.append plain
  rw [shape, List.cons_append]
  refine ⟨List.forall_mem_cons.mpr ⟨by decide, behind.bare⟩, ?_⟩
  intro before after split
  cases before with
  | nil =>
      refine ⟨entity c, mem_entities_iff.mpr ⟨c, isSpecial, rfl⟩, rest, ?_⟩
      rw [shape, List.cons_append, split, List.nil_append]
  | cons _ before => exact behind.marked before after (List.cons.inj split).2

/-- An escaped text begins with what one character leaves as. -/
theorem exists_entity_append (escaped : IsEscaped written) (filled : written ≠ []) :
    ∃ c rest, written = entity c ++ rest := by
  obtain ⟨c, rest, rfl⟩ := List.exists_cons_of_ne_nil filled
  by_cases mark : c = '&'
  · subst mark
    obtain ⟨name, member, rest, split⟩ := escaped.marked [] rest rfl
    obtain ⟨c, _, rfl⟩ := mem_entities_iff.mp member
    exact ⟨c, rest, split.symm⟩
  · have plain : c ∉ special := by
      rw [mem_special_iff, not_or]
      exact ⟨mark, by simpa using escaped.bare c List.mem_cons_self⟩
    exact ⟨c, rest, by rw [entity_of_not_mem plain, List.singleton_append]⟩

end IsEscaped

theorem entity_ne_nil (c : Char) : entity c ≠ [] := by
  by_cases isSpecial : c ∈ special
  · obtain ⟨name, shape, _⟩ := exists_entity_eq_cons isSpecial
    simp [shape]
  · simp [entity_of_not_mem isSpecial]

theorem isEscaped_escape (text : List Char) : IsEscaped (escape text) := by
  induction text with
  | nil => exact .nil
  | cons c text ih =>
      rw [escape_cons]
      by_cases isSpecial : c ∈ special
      · exact ih.entity_append isSpecial
      · rw [entity_of_not_mem isSpecial]
        exact ih.cons isSpecial

theorem exists_escape_eq_iff {written : List Char} :
    (∃ text, escape text = written) ↔ IsEscaped written := by
  constructor
  · rintro ⟨text, rfl⟩
    exact isEscaped_escape text
  · intro escaped
    -- Each step takes off what one character left as, which is never nothing.
    induction size : written.length using Nat.strongRecOn generalizing written with
    | ind _ ih =>
        by_cases filled : written = []
        · exact ⟨[], by rw [filled, escape_nil]⟩
        · obtain ⟨c, rest, rfl⟩ := escaped.exists_entity_append filled
          have shorter : rest.length < (entity c ++ rest).length := by
            have written := List.length_pos_iff.mpr (entity_ne_nil c)
            rw [List.length_append]
            omega
          obtain ⟨text, rfl⟩ := ih rest.length (size ▸ shorter) escaped.of_append rfl
          exact ⟨c :: text, escape_cons c text⟩

theorem escape_unescape_eq_self_iff {written : List Char} :
    escape (unescape written) = written ↔ IsEscaped written := by
  constructor
  · intro same
    exact exists_escape_eq_iff.mp ⟨_, same⟩
  · intro escaped
    obtain ⟨text, rfl⟩ := exists_escape_eq_iff.mpr escaped
    rw [unescape_escape]

/-- Escaping loses nothing: reading the entities back from left to right undoes it, so that
no two texts leave alike.  A text is one that escaping writes exactly when it is escaped,
and then it is what its reading leaves as. -/
theorem escaping_is_lossless :
    (∀ text, unescape (escape text) = text) ∧
    (∀ left right, escape left = escape right ↔ left = right) ∧
    ∀ written, ((∃ text, escape text = written) ↔ IsEscaped written) ∧
      (escape (unescape written) = written ↔ IsEscaped written) := by
  refine ⟨unescape_escape, fun left right => ⟨fun same => ?_, congrArg escape⟩,
    fun _ => ⟨exists_escape_eq_iff, escape_unescape_eq_self_iff⟩⟩
  calc
    left = unescape (escape left) := (unescape_escape left).symm
    _ = unescape (escape right) := by rw [same]
    _ = right := unescape_escape right

/-- An entity that was in the text keeps its look and loses its meaning. -/
example : escape ['&', 'l', 't', ';', '<'] =
    ['&', 'a', 'm', 'p', ';', 'l', 't', ';', '&', 'l', 't', ';'] := by decide

end PageInjection.Markup
