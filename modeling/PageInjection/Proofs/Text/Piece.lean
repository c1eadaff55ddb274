import PageInjection.Text.Separated

/-!
# The pieces of a text

A piece reaches from one separator, or from the front of the text, to the next
one, or to the end.  Cutting at the separators gives the pieces in order.
-/

namespace PageInjection.Text

/-- A stretch of text between two separators or ends. -/
def IsPiece (separator : Char) (text piece : List Char) : Prop :=
  separator ∉ piece ∧ ∃ front back, text = front ++ piece ++ back ∧
    (front = [] ∨ ∃ before, front = before ++ [separator]) ∧
    (back = [] ∨ ∃ after, back = separator :: after)

theorem splitOn_of_not_mem {separator : Char} {piece : List Char}
    (whole : separator ∉ piece) : splitOn separator piece = [piece] := by
  induction piece with
  | nil => rfl
  | cons c rest ih =>
      simp only [List.mem_cons, not_or] at whole
      have different : ¬ c = separator := fun same => whole.1 same.symm
      simp [splitOn, different, ih whole.2]

/-- A separator ends one piece and begins another. -/
theorem splitOn_append_cons (separator : Char) (front back : List Char) :
    splitOn separator (front ++ separator :: back) =
      splitOn separator front ++ splitOn separator back := by
  induction front with
  | nil => simp [splitOn]
  | cons c rest ih =>
      by_cases same : c = separator
      · simp [splitOn, same, ih]
      · obtain ⟨piece, pieces, cut⟩ :=
          List.exists_cons_of_ne_nil (splitOn_ne_nil separator rest)
        simp [splitOn, same, ih, cut]

/-- Of two texts whose first pieces end at a separator, one begins the other only if these
pieces are the same. -/
theorem append_cons_prefix_append_cons_iff {separator : Char} {first second : List Char}
    (firstWhole : separator ∉ first) (secondWhole : separator ∉ second) {front back : List Char} :
    first ++ separator :: front <+: second ++ separator :: back ↔
      first = second ∧ front <+: back := by
  induction first generalizing second with
  | nil =>
      cases second with
      | nil => simp
      | cons d second =>
          have different : separator ≠ d := fun same => secondWhole (same ▸ List.mem_cons_self)
          simp [different]
  | cons c first ih =>
      cases second with
      | nil =>
          have different : c ≠ separator := fun same => firstWhole (same ▸ List.mem_cons_self)
          simp [different]
      | cons d second =>
          have rest := ih (List.not_mem_of_not_mem_cons firstWhole)
            (List.not_mem_of_not_mem_cons secondWhole)
          simp only [List.cons_append, List.cons_prefix_cons, rest, List.cons.injEq, and_assoc]

/-- Only the empty text has nothing but an empty piece. -/
theorem splitOn_eq_singleton_nil_iff {separator : Char} {text : List Char} :
    splitOn separator text = [[]] ↔ text = [] := by
  cases text with
  | nil => simp [splitOn]
  | cons c rest =>
      obtain ⟨piece, pieces, cut⟩ := List.exists_cons_of_ne_nil (splitOn_ne_nil separator rest)
      by_cases same : c = separator
      · simp [splitOn, same, cut]
      · simp [splitOn, same, cut]

/-- What holds of every character of every piece holds of all but the separators. -/
theorem forall_mem_splitOn_iff {separator : Char} {text : List Char} {property : Char → Prop} :
    (∀ piece ∈ splitOn separator text, ∀ c ∈ piece, property c) ↔
      ∀ c ∈ text, c = separator ∨ property c := by
  induction text with
  | nil => simp [splitOn]
  | cons c rest ih =>
      by_cases same : c = separator
      · simp [splitOn, same, ih]
      · obtain ⟨piece, pieces, cut⟩ :=
          List.exists_cons_of_ne_nil (splitOn_ne_nil separator rest)
        rw [cut, List.forall_mem_cons] at ih
        simp [splitOn, same, cut, ← ih, and_assoc]

theorem mem_splitOn_iff {separator : Char} {text piece : List Char} :
    piece ∈ splitOn separator text ↔ IsPiece separator text piece := by
  constructor
  · intro member
    induction size : text.length using Nat.strongRecOn generalizing text with
    | ind _ ih =>
        by_cases separated : separator ∈ text
        · obtain ⟨first, rest, rfl, whole⟩ := List.eq_append_cons_of_mem separated
          rw [splitOn_append_cons, splitOn_of_not_mem whole, List.mem_append,
            List.mem_singleton] at member
          rcases member with rfl | later
          · exact ⟨whole, [], separator :: rest, by simp, .inl rfl, .inr ⟨rest, rfl⟩⟩
          · have shorter : rest.length < (first ++ separator :: rest).length := by
              simp only [List.length_append, List.length_cons]
              omega
            obtain ⟨pieceWhole, front, back, rfl, frontEnds, backEnds⟩ :=
              ih rest.length (size ▸ shorter) later rfl
            refine ⟨pieceWhole, first ++ separator :: front, back, by simp, .inr ?_, backEnds⟩
            rcases frontEnds with rfl | ⟨before, rfl⟩
            · exact ⟨first, rfl⟩
            · exact ⟨first ++ separator :: before, by simp⟩
        · rw [splitOn_of_not_mem separated, List.mem_singleton] at member
          subst member
          exact ⟨separated, [], [], by simp, .inl rfl, .inl rfl⟩
  · rintro ⟨whole, front, back, rfl, frontEnds, backEnds⟩
    have behind : piece ∈ splitOn separator (piece ++ back) := by
      rcases backEnds with rfl | ⟨after, rfl⟩
      · simp [splitOn_of_not_mem whole]
      · simp [splitOn_append_cons, splitOn_of_not_mem whole]
    rcases frontEnds with rfl | ⟨before, rfl⟩
    · exact behind
    · have cut : before ++ [separator] ++ piece ++ back =
          before ++ separator :: (piece ++ back) := by simp
      rw [cut, splitOn_append_cons]
      exact List.mem_append_right _ behind

end PageInjection.Text
