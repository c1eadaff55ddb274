import PageInjection.Proofs.Markup.Removal

/-!
# What a pass joins

A match of a pattern begins with `<` and leaves an end of the text behind it.
Deleting it joins what stands around it.  Where no two `<` stand side by side
this puts no character behind a `<` that did not stand there before.
-/

namespace PageInjection.Markup

/-- The matches of the pattern begin with `<` and leave an end of the text. -/
def Pattern.StartsOpen (pattern : Pattern) : Prop :=
  ∀ ⦃c : Char⦄ ⦃rest after : List Char⦄,
    pattern (c :: rest) = some after → c = '<' ∧ after <:+ rest

theorem pair_infix_iff {c d : Char} {text : List Char} :
    [c, d] <:+: text ↔ (c, d) ∈ text.zip text.tail := by
  induction text with
  | nil => simp
  | cons e rest ih =>
      cases rest with
      | nil => simp [List.infix_cons_iff]
      | cons f rest =>
          rw [List.infix_cons_iff, ih]
          simp [List.cons_prefix_cons]

/-! ## Matches in parts -/

theorem throughClose_eq_some_iff {text after : List Char} :
    throughClose text = some after ↔ ∃ front, '>' ∉ front ∧ text = front ++ '>' :: after := by
  constructor
  · intro found
    induction text with
    | nil => simp [throughClose] at found
    | cons c text ih =>
        unfold throughClose at found
        split at found
        · rename_i close
          obtain rfl := Option.some.inj found
          exact ⟨[], by simp, by simp [close]⟩
        · rename_i other
          obtain ⟨front, unclosed, rfl⟩ := ih found
          exact ⟨c :: front, by simp [Ne.symm other, unclosed], rfl⟩
  · rintro ⟨front, unclosed, rfl⟩
    induction front with
    | nil => simp [throughClose]
    | cons c front ih =>
        simp only [List.mem_cons, not_or] at unclosed
        simp [throughClose, Ne.symm unclosed.1, ih unclosed.2]

theorem closingTag_eq_some_iff {name text after : List Char} :
    closingTag name text = some after ↔
      ∃ rest behind, text = '<' :: '/' :: rest ∧ word name rest = some behind ∧
        behind.dropWhile Text.isBlank = '>' :: after := by
  constructor
  · intro found
    unfold closingTag at found
    split at found
    · rename_i rest
      obtain ⟨behind, named, closed⟩ := Option.bind_eq_some_iff.mp found
      split at closed
      · rename_i left blanks
        obtain rfl := Option.some.inj closed
        exact ⟨rest, behind, rfl, named, blanks⟩
      · simp at closed
    · simp at found
  · rintro ⟨rest, behind, rfl, named, blanks⟩
    simp [closingTag, named, blanks]

theorem element_eq_some_iff {name text after : List Char} :
    element name text = some after ↔
      ∃ rest attributes content, text = '<' :: rest ∧ word name rest = some attributes ∧
        throughClose attributes = some content ∧
        throughClosingTag name content = some after := by
  constructor
  · intro matched
    unfold element at matched
    split at matched
    · rename_i rest
      obtain ⟨attributes, named, opened⟩ := Option.bind_eq_some_iff.mp matched
      obtain ⟨content, closed, whole⟩ := Option.bind_eq_some_iff.mp opened
      exact ⟨rest, attributes, content, rfl, named, closed, whole⟩
    · simp at matched
  · rintro ⟨rest, attributes, content, rfl, named, closed, whole⟩
    simp [element, named, closed, whole]

theorem comment_eq_some_iff {text after : List Char} :
    comment text = some after ↔
      ∃ inside, text = '<' :: '!' :: '-' :: '-' :: inside ∧
        throughCommentEnd inside = after := by
  constructor
  · intro matched
    unfold comment at matched
    split at matched
    · exact ⟨_, rfl, Option.some.inj matched⟩
    · simp at matched
  · rintro ⟨inside, rfl, rfl⟩
    rfl

theorem tag_eq_some_iff {text after : List Char} :
    tag text = some after ↔
      ∃ opener inside, text = '<' :: opener :: inside ∧ opensTag opener = true ∧
        throughCloseOrEnd inside = after := by
  constructor
  · intro matched
    unfold tag at matched
    split at matched
    · split at matched
      · rename_i opens
        exact ⟨_, _, rfl, opens, Option.some.inj matched⟩
      · simp at matched
    · simp at matched
  · rintro ⟨opener, inside, rfl, opens, rfl⟩
    exact tag_of_opener opens inside

/-! ## Ends that are left -/

theorem word_suffix {letters text after : List Char}
    (found : word letters text = some after) : after <:+ text := by
  induction letters generalizing text with
  | nil =>
      have same : text = after := Option.some.inj found
      exact same ▸ List.suffix_rfl
  | cons letter letters ih =>
      cases text with
      | nil => simp [word] at found
      | cons c text =>
          unfold word at found
          split at found
          · exact (ih found).trans (List.suffix_cons c text)
          · simp at found

theorem throughClose_suffix {text after : List Char}
    (found : throughClose text = some after) : after <:+ text := by
  obtain ⟨front, _, rfl⟩ := throughClose_eq_some_iff.mp found
  exact (List.suffix_cons '>' after).trans (List.suffix_append front ('>' :: after))

theorem closingTag_suffix {name text after : List Char}
    (found : closingTag name text = some after) : after <:+ text := by
  obtain ⟨rest, behind, rfl, named, blanks⟩ := closingTag_eq_some_iff.mp found
  have inBehind : '>' :: after <:+ behind := blanks ▸ List.dropWhile_suffix _
  have inRest := inBehind.trans (word_suffix named)
  have inText := inRest.trans (List.suffix_append ['<', '/'] rest)
  exact (List.suffix_cons '>' after).trans inText

theorem throughClosingTag_suffix {name text after : List Char}
    (found : throughClosingTag name text = some after) : after <:+ text := by
  induction text with
  | nil => simp [throughClosingTag] at found
  | cons c text ih =>
      unfold throughClosingTag at found
      split at found
      · rename_i left closing
        obtain rfl := Option.some.inj found
        exact closingTag_suffix closing
      · exact (ih found).trans (List.suffix_cons c text)

theorem throughCommentEnd_suffix (text : List Char) : throughCommentEnd text <:+ text := by
  fun_induction throughCommentEnd text with
  | case1 => exact List.suffix_rfl
  | case2 rest => exact List.suffix_append ['-', '-', '>'] rest
  | case3 c rest _ ih => exact ih.trans (List.suffix_cons c rest)

theorem throughCloseOrEnd_suffix (text : List Char) : throughCloseOrEnd text <:+ text := by
  induction text with
  | nil => exact List.suffix_rfl
  | cons c rest ih =>
      unfold throughCloseOrEnd
      split
      · exact List.suffix_cons c rest
      · exact ih.trans (List.suffix_cons c rest)

theorem startsOpen_element (name : List Char) : (element name).StartsOpen := by
  intro c rest after matched
  obtain ⟨_, attributes, content, split, named, closed, whole⟩ :=
    element_eq_some_iff.mp matched
  obtain ⟨rfl, rfl⟩ := List.cons.inj split
  have inContent := throughClosingTag_suffix whole
  have inAttributes := inContent.trans (throughClose_suffix closed)
  exact ⟨rfl, inAttributes.trans (word_suffix named)⟩

theorem startsOpen_comment : comment.StartsOpen := by
  intro c rest after matched
  obtain ⟨inside, split, rfl⟩ := comment_eq_some_iff.mp matched
  obtain ⟨rfl, rfl⟩ := List.cons.inj split
  have behindDashes := List.suffix_append ['!', '-', '-'] inside
  exact ⟨rfl, (throughCommentEnd_suffix inside).trans behindDashes⟩

theorem startsOpen_tag : tag.StartsOpen := by
  intro c rest after matched
  obtain ⟨opener, inside, split, _, rfl⟩ := tag_eq_some_iff.mp matched
  obtain ⟨rfl, rfl⟩ := List.cons.inj split
  exact ⟨rfl, (throughCloseOrEnd_suffix inside).trans (List.suffix_cons opener inside)⟩

/-! ## Passes as relations -/

/-- What a pass leaves of a text: the characters at which no match begins, and
nothing of a match. -/
inductive Passed (pattern : Pattern) : List Char → List Char → Prop where
  | nil : Passed pattern [] []
  | keep {c : Char} {rest kept : List Char} :
      pattern (c :: rest) = none → Passed pattern rest kept →
      Passed pattern (c :: rest) (c :: kept)
  | drop {rest after kept : List Char} :
      pattern ('<' :: rest) = some after → after <:+ rest →
      Passed pattern after kept → Passed pattern ('<' :: rest) kept

theorem passed_removeMatches {pattern : Pattern} (starts : pattern.StartsOpen)
    (text : List Char) : Passed pattern text (removeMatches pattern text) := by
  induction size : text.length using Nat.strongRecOn generalizing text with
  | ind _ ih =>
      cases text with
      | nil => exact .nil
      | cons c rest =>
          cases matched : pattern (c :: rest) with
          | none =>
              rw [removeMatches_cons_of_none matched]
              exact .keep matched (ih rest.length (by simp [← size]) rest rfl)
          | some after =>
              obtain ⟨rfl, left⟩ := starts matched
              obtain ⟨taken, rfl⟩ := left
              rw [removeMatches_cons_of_some taken after matched]
              have shorter : after.length < ('<' :: (taken ++ after)).length := by
                simp only [List.length_cons, List.length_append]
                omega
              exact .drop matched (List.suffix_append taken after)
                (ih after.length (size ▸ shorter) after rfl)

/-- The first character that is left stands first in the text, or a match does. -/
theorem Passed.exists_cons {pattern : Pattern} {text kept : List Char} {c : Char}
    (passed : Passed pattern text (c :: kept)) :
    ∃ back, text = c :: back ∨ text = '<' :: back := by
  cases passed with
  | keep _ _ => exact ⟨_, .inl rfl⟩
  | drop _ _ _ => exact ⟨_, .inr rfl⟩

/-- Where every `<` stands apart from the next, the character behind a `<` that
is left stood behind it in the text, and no match began there. -/
theorem Passed.exists_refused_of_infix {pattern : Pattern} {text kept : List Char}
    (passed : Passed pattern text kept) (apart : ¬ ['<', '<'] <:+: text) {c : Char}
    (pair : ['<', c] <:+: kept) :
    ∃ back, '<' :: c :: back <:+ text ∧ pattern ('<' :: c :: back) = none := by
  induction passed with
  | nil =>
      have empty := List.infix_nil.mp pair
      simp at empty
  | @keep d rest kept refused passed ih =>
      have restApart : ¬ ['<', '<'] <:+: rest := fun double =>
        apart (double.trans (List.suffix_cons d rest).isInfix)
      rcases List.infix_cons_iff.mp pair with atFront | later
      · obtain ⟨rfl, behind⟩ := List.cons_prefix_cons.mp atFront
        obtain ⟨kept', rfl⟩ := behind
        -- A match between the two characters would begin with a second `<`.
        obtain ⟨back, rfl | rfl⟩ := passed.exists_cons
        · exact ⟨back, List.suffix_rfl, refused⟩
        · exact absurd (List.prefix_append ['<', '<'] back).isInfix apart
      · obtain ⟨back, inRest, refusedThere⟩ := ih restApart later
        exact ⟨back, inRest.trans (List.suffix_cons d rest), refusedThere⟩
  | @drop rest after kept _ left _ ih =>
      have leftText : after <:+ '<' :: rest := left.trans (List.suffix_cons '<' rest)
      have afterApart : ¬ ['<', '<'] <:+: after := fun double =>
        apart (double.trans leftText.isInfix)
      obtain ⟨back, inAfter, refusedThere⟩ := ih afterApart pair
      exact ⟨back, inAfter.trans leftText, refusedThere⟩

/-! ## Taking and sparing -/

/-- A pass with the pattern takes this part of a text, whatever follows it. -/
def Pattern.Takes (pattern : Pattern) (part : List Char) : Prop :=
  ∀ rest, removeMatches pattern (part ++ rest) = removeMatches pattern rest

/-- A pass with the pattern leaves this part of a text, whatever follows it. -/
def Pattern.Spares (pattern : Pattern) (part : List Char) : Prop :=
  ∀ rest, removeMatches pattern (part ++ rest) = part ++ removeMatches pattern rest

theorem Pattern.Takes.of_match {pattern : Pattern} {part : List Char}
    (matched : ∀ rest, pattern ('<' :: (part ++ rest)) = some rest) :
    pattern.Takes ('<' :: part) := by
  intro rest
  exact removeMatches_cons_of_some part rest (matched rest)

theorem Pattern.Spares.append {pattern : Pattern} {front back : List Char}
    (sparesFront : pattern.Spares front) (sparesBack : pattern.Spares back) :
    pattern.Spares (front ++ back) := by
  intro rest
  rw [List.append_assoc, sparesFront, sparesBack, List.append_assoc]

section StartsOpen

variable {pattern : Pattern} (starts : pattern.StartsOpen) {part : List Char}

include starts

theorem Pattern.StartsOpen.eq_none {c : Char} (other : c ≠ '<') (rest : List Char) :
    pattern (c :: rest) = none := by
  cases matched : pattern (c :: rest) with
  | none => rfl
  | some after => exact absurd (starts matched).1 other

theorem Pattern.StartsOpen.spares (closed : '<' ∉ part) : pattern.Spares part := by
  intro rest
  induction part with
  | nil => rfl
  | cons c part ih =>
      simp only [List.mem_cons, not_or] at closed
      have refused := starts.eq_none (Ne.symm closed.1) (part ++ rest)
      rw [List.cons_append, removeMatches_cons_of_none refused, ih closed.2]
      rfl

theorem Pattern.StartsOpen.spares_open (closed : '<' ∉ part)
    (refused : ∀ rest, pattern ('<' :: (part ++ rest)) = none) :
    pattern.Spares ('<' :: part) := by
  intro rest
  rw [List.cons_append, removeMatches_cons_of_none (refused rest), starts.spares closed]
  rfl

/-- The end of a text stays when no match begins at its only `<`. -/
theorem Pattern.StartsOpen.removeMatches_open (closed : '<' ∉ part)
    (refused : pattern ('<' :: part) = none) :
    removeMatches pattern ('<' :: part) = '<' :: part := by
  have kept := starts.spares closed []
  rw [List.append_nil, removeMatches_nil, List.append_nil] at kept
  rw [removeMatches_cons_of_none refused, kept]

end StartsOpen

end PageInjection.Markup
