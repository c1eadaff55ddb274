import PageInjection.Markup.Strip

/-!
# One pass of removal

`removeMatches` deletes what a pattern takes and keeps every other character.
`Untagged` describes the same pass for tags without the scanner: a text is read
as characters that are kept, finished tags that go, and possibly one unfinished
tag that goes with everything behind it.
-/

namespace PageInjection.Markup

theorem removeFrom_eq_drop (pattern : Pattern) (skip : Nat) (text : List Char) :
    removeFrom pattern skip text = removeFrom pattern 0 (text.drop skip) := by
  induction text generalizing skip with
  | nil => simp [removeFrom]
  | cons c rest ih =>
      cases skip with
      | zero => simp
      | succ skip => simpa [removeFrom] using ih skip

@[simp] theorem removeMatches_nil (pattern : Pattern) :
    removeMatches pattern [] = [] := rfl

theorem removeMatches_cons_of_none {pattern : Pattern} {c : Char} {rest : List Char}
    (refused : pattern (c :: rest) = none) :
    removeMatches pattern (c :: rest) = c :: removeMatches pattern rest := by
  simp [removeMatches, removeFrom, refused]

/-- A match that leaves a proper end of the text continues with that end. -/
theorem removeMatches_cons_of_some {pattern : Pattern} {c : Char}
    (taken after : List Char)
    (matched : pattern (c :: (taken ++ after)) = some after) :
    removeMatches pattern (c :: (taken ++ after)) = removeMatches pattern after := by
  have skipped : (taken ++ after).length - after.length = taken.length := by
    simp
  rw [removeMatches, removeFrom, matched]
  simp only [skipped]
  rw [removeFrom_eq_drop, List.drop_left]
  rfl

theorem throughCloseOrEnd_of_not_mem {text : List Char} (unclosed : '>' ∉ text) :
    throughCloseOrEnd text = [] := by
  induction text with
  | nil => rfl
  | cons c rest ih =>
      simp only [List.mem_cons, not_or] at unclosed
      have other : ¬ c = '>' := fun same => unclosed.1 same.symm
      simp [throughCloseOrEnd, other, ih unclosed.2]

theorem throughCloseOrEnd_append {body : List Char} (inside : '>' ∉ body)
    (after : List Char) :
    throughCloseOrEnd (body ++ '>' :: after) = after := by
  induction body with
  | nil => simp [throughCloseOrEnd]
  | cons c rest ih =>
      simp only [List.mem_cons, not_or] at inside
      have other : ¬ c = '>' := fun same => inside.1 same.symm
      simp [throughCloseOrEnd, other, ih inside.2]

/-- A tag with its `>`. -/
inductive IsTag : List Char → Prop where
  | mk {opener : Char} {body : List Char} :
      opensTag opener = true → '>' ∉ body →
      IsTag ('<' :: opener :: (body ++ ['>']))

/-- What is left of a text when its tags go. -/
inductive Untagged : List Char → List Char → Prop where
  | nil : Untagged [] []
  | keep {c : Char} {rest kept : List Char} :
      tag (c :: rest) = none → Untagged rest kept →
      Untagged (c :: rest) (c :: kept)
  | drop {piece rest kept : List Char} :
      IsTag piece → Untagged rest kept → Untagged (piece ++ rest) kept
  | cut {opener : Char} {body : List Char} :
      opensTag opener = true → '>' ∉ body →
      Untagged ('<' :: opener :: body) []

theorem tag_eq_none_iff {c : Char} {rest : List Char} :
    tag (c :: rest) = none ↔
      ∀ opener body, c = '<' → rest = opener :: body → opensTag opener = false := by
  by_cases opening : c = '<'
  · subst opening
    cases rest with
    | nil => simp [tag]
    | cons opener body => simp [tag]
  · cases rest <;> simp [tag, opening]

theorem tag_of_opener {opener : Char} (opens : opensTag opener = true)
    (rest : List Char) :
    tag ('<' :: opener :: rest) = some (throughCloseOrEnd rest) := by
  simp [tag, opens]

theorem removeMatches_tag_append {piece : List Char} (tagged : IsTag piece)
    (after : List Char) :
    removeMatches tag (piece ++ after) = removeMatches tag after := by
  cases tagged with
  | @mk opener body opens inside =>
      have matched := tag_of_opener opens (body ++ '>' :: after)
      rw [throughCloseOrEnd_append inside] at matched
      have left := removeMatches_cons_of_some (opener :: (body ++ ['>'])) after
        (by simpa using matched)
      simpa using left

theorem removeMatches_tag_unfinished {opener : Char} {body : List Char}
    (opens : opensTag opener = true) (unclosed : '>' ∉ body) :
    removeMatches tag ('<' :: opener :: body) = [] := by
  have matched := tag_of_opener opens body
  rw [throughCloseOrEnd_of_not_mem unclosed] at matched
  have left := removeMatches_cons_of_some (opener :: body) [] (by simpa using matched)
  simpa using left

/-- A text that opens a tag starts with a finished tag or is an unfinished one. -/
theorem exists_tag_of_opener {opener : Char} (opens : opensTag opener = true)
    (rest : List Char) :
    '>' ∉ rest ∨
      ∃ piece after, IsTag piece ∧ '<' :: opener :: rest = piece ++ after := by
  by_cases closed : '>' ∈ rest
  · right
    obtain ⟨body, after, split, inside⟩ := List.eq_append_cons_of_mem closed
    exact ⟨_, after, .mk opens inside, by simp [split]⟩
  · exact .inl closed

theorem IsTag.length_pos {piece : List Char} (tagged : IsTag piece) :
    0 < piece.length := by
  cases tagged
  simp

theorem IsTag.tag_append {piece : List Char} (tagged : IsTag piece)
    (rest : List Char) : tag (piece ++ rest) = some rest := by
  cases tagged with
  | @mk opener body opens inside =>
      have split : '<' :: opener :: (body ++ ['>']) ++ rest =
          '<' :: opener :: (body ++ '>' :: rest) := by simp
      rw [split, tag_of_opener opens, throughCloseOrEnd_append inside]

theorem IsTag.exists_cons {piece : List Char} (tagged : IsTag piece) :
    ∃ inner, piece = '<' :: (inner ++ ['>']) := by
  cases tagged with
  | @mk opener body opens inside => exact ⟨opener :: body, rfl⟩

theorem close_not_mem_unfinished {opener : Char} {body : List Char}
    (opens : opensTag opener = true) (unclosed : '>' ∉ body) :
    '>' ∉ '<' :: opener :: body := by
  have different : ¬ '>' = opener := by
    rintro rfl
    exact absurd opens (by decide)
  simp [different, unclosed]

/-- The pass over the tags leaves what the description says. -/
theorem untagged_removeMatches (text : List Char) :
    Untagged text (removeMatches tag text) := by
  induction size : text.length using Nat.strongRecOn generalizing text with
  | ind _ ih =>
      cases text with
      | nil => exact .nil
      | cons c rest =>
          by_cases refused : tag (c :: rest) = none
          · rw [removeMatches_cons_of_none refused]
            exact .keep refused (ih rest.length (by simp [← size]) rest rfl)
          · rw [tag_eq_none_iff] at refused
            simp only [Classical.not_forall, Bool.not_eq_false] at refused
            obtain ⟨opener, body, rfl, rfl, opens⟩ := refused
            rcases exists_tag_of_opener opens body with
              unclosed | ⟨piece, after, tagged, split⟩
            · rw [removeMatches_tag_unfinished opens unclosed]
              exact .cut opens unclosed
            · rw [split, removeMatches_tag_append tagged]
              have shorter : after.length < ('<' :: opener :: body).length := by
                rw [split, List.length_append]
                exact Nat.lt_add_of_pos_left tagged.length_pos
              exact .drop tagged (ih after.length (size ▸ shorter) after rfl)

end PageInjection.Markup
