import PageInjection.Proofs.Markup.Name
import PageInjection.Proofs.Markup.Pass
import PageInjection.Proofs.Text.Trimmed

/-!
# Elements and comments that are taken whole

An element whose content holds no `<` ends with its own closing tag, and a comment
without `>` with its own end.  The pass over elements of that name, or over
comments, takes it from end to end and nothing more.
-/

namespace PageInjection.Markup

/-- A whole element, with the letters of its names in any case. -/
inductive IsWholeElement (name : List Char) : List Char → Prop where
  | mk {opening attributes content closing blanks : List Char} :
      opening.map Char.toLower = name → '<' ∉ attributes → '>' ∉ attributes →
      '<' ∉ content → closing.map Char.toLower = name → Text.AllBlank blanks →
      IsWholeElement name
        ('<' :: (opening ++ attributes ++ ['>']) ++ content ++
          '<' :: '/' :: (closing ++ blanks ++ ['>']))

/-- A comment with its end. -/
inductive IsWholeComment : List Char → Prop where
  | mk {inside : List Char} : '<' ∉ inside → '>' ∉ inside →
      IsWholeComment ('<' :: '!' :: '-' :: '-' :: (inside ++ ['-', '-', '>']))

/-! ## Elements -/

theorem closingTag_append {name closing blanks : List Char}
    (spells : closing.map Char.toLower = name) (blank : Text.AllBlank blanks)
    (rest : List Char) :
    closingTag name ('<' :: '/' :: (closing ++ (blanks ++ '>' :: rest))) = some rest := by
  have stays : Text.trimLeft ('>' :: rest) = '>' :: rest := by
    apply Text.trimLeft_eq_self
    intro c first
    obtain rfl := Option.some.inj first
    decide
  have trimmed := Text.trimLeft_append blank ('>' :: rest)
  have dropped : (blanks ++ '>' :: rest).dropWhile Text.isBlank = '>' :: rest :=
    trimmed.trans stays
  exact closingTag_eq_some_iff.mpr ⟨_, _, rfl, word_append spells _, dropped⟩

theorem throughClosingTag_append {name content : List Char} (closed : '<' ∉ content)
    (rest : List Char) :
    throughClosingTag name (content ++ rest) = throughClosingTag name rest := by
  induction content with
  | nil => rfl
  | cons c content ih =>
      simp only [List.mem_cons, not_or] at closed
      have refused : closingTag name (c :: (content ++ rest)) = none := by
        cases found : closingTag name (c :: (content ++ rest)) with
        | none => rfl
        | some after =>
            obtain ⟨_, _, split, _, _⟩ := closingTag_eq_some_iff.mp found
            exact absurd (List.cons.inj split).1.symm closed.1
      rw [List.cons_append, throughClosingTag, refused, ih closed.2]

theorem IsWholeElement.takes {name part : List Char} (whole : IsWholeElement name part) :
    (element name).Takes part := by
  cases whole with
  | @mk opening attributes content closing blanks opens _ unclosed closed closes blank =>
      apply Pattern.Takes.of_match
      intro rest
      let closingPart := '<' :: '/' :: (closing ++ (blanks ++ '>' :: rest))
      have opened := word_append opens (attributes ++ '>' :: (content ++ closingPart))
      have ended : throughClose (attributes ++ '>' :: (content ++ closingPart)) =
          some (content ++ closingPart) :=
        throughClose_eq_some_iff.mpr ⟨attributes, unclosed, rfl⟩
      have left : throughClosingTag name (content ++ closingPart) = some rest := by
        rw [throughClosingTag_append closed, throughClosingTag, closingTag_append closes blank]
      exact element_eq_some_iff.mpr
        ⟨_, _, _, by simp [closingPart], opened, ended, left⟩

/-! ## Comments -/

theorem throughCommentEnd_of_not_mem {text : List Char} (unclosed : '>' ∉ text) :
    throughCommentEnd text = [] := by
  fun_induction throughCommentEnd text with
  | case1 => rfl
  | case2 rest => simp at unclosed
  | case3 c rest _ ih => exact ih fun member => unclosed (List.mem_cons_of_mem c member)

theorem throughCommentEnd_cons {c : Char} {rest : List Char}
    (unended : ¬ ['-', '-', '>'] <+: c :: rest) :
    throughCommentEnd (c :: rest) = throughCommentEnd rest := by
  rw [throughCommentEnd.eq_def]
  split
  · rename_i same
    exact absurd same (List.cons_ne_nil c rest)
  · rename_i after same
    rw [same] at unended
    exact absurd (List.prefix_append ['-', '-', '>'] after) unended
  · rename_i d after _ same
    rw [(List.cons.inj same).2]

/-- A comment ends with the first `>` behind two dashes, which is its own. -/
theorem throughCommentEnd_append {inside : List Char} (unclosed : '>' ∉ inside)
    (rest : List Char) :
    throughCommentEnd (inside ++ '-' :: '-' :: '>' :: rest) = rest := by
  induction inside with
  | nil => rfl
  | cons c inside ih =>
      simp only [List.mem_cons, not_or] at unclosed
      have unended : ¬ ['-', '-', '>'] <+: c :: (inside ++ '-' :: '-' :: '>' :: rest) := by
        rintro ⟨after, split⟩
        -- The third character is one of the dashes or stands inside of the comment.
        have third := congrArg (·[2]?) split
        cases inside with
        | nil => simp at third
        | cons d inside =>
            cases inside with
            | nil => simp at third
            | cons e inside =>
                obtain rfl : '>' = e := by simpa using third
                exact unclosed.2 (by simp)
      rw [List.cons_append, throughCommentEnd_cons unended, ih unclosed.2]

theorem IsWholeComment.takes {part : List Char} (whole : IsWholeComment part) :
    Pattern.Takes comment part := by
  cases whole with
  | @mk inside _ unclosed =>
      apply Pattern.Takes.of_match
      intro rest
      simp [comment, throughCommentEnd_append unclosed]

end PageInjection.Markup
