import PageInjection.Proofs.Markup.HiddenClosing
import PageInjection.Proofs.Markup.Pass
import PageInjection.Proofs.Text.Trimmed

/-!
# Texts in which no tag opens

Stripping a text in which no two `<` stand side by side leaves a text in which no
tag opens, and a text in which no tag opens is stripped of nothing but the blanks
at its ends.  Where two stand side by side, the first may come to stand before what
follows the match that begins with the second.
-/

namespace PageInjection.Markup

/-- No two `<` of the text stand side by side. -/
def OpensApart (text : List Char) : Prop :=
  ¬ ['<', '<'] <:+: text

/-- No `<` of the text stands directly before a character that makes it a tag. -/
def Tagless (text : List Char) : Prop :=
  ∀ opener, ['<', opener] <:+: text → opensTag opener = false

theorem Tagless.part {part text : List Char} (tagless : Tagless text)
    (within : part <:+: text) : Tagless part := by
  intro opener pair
  exact tagless opener (pair.trans within)

/-! ## What passes leave -/

theorem OpensApart.removeMatches {pattern : Pattern} {text : List Char}
    (apart : OpensApart text) (starts : pattern.StartsOpen) :
    OpensApart (removeMatches pattern text) := by
  intro double
  have passed := passed_removeMatches starts text
  obtain ⟨back, inText, _⟩ := passed.exists_refused_of_infix apart double
  have pair : ['<', '<'] <+: '<' :: '<' :: back := List.prefix_append ['<', '<'] back
  exact apart (pair.isInfix.trans inText.isInfix)

theorem OpensApart.beforeTags {text : List Char} (apart : OpensApart text) :
    OpensApart (beforeTags text) := by
  have withoutScripts := apart.removeMatches (startsOpen_element scriptName)
  have withoutStyles := withoutScripts.removeMatches (startsOpen_element styleName)
  exact withoutStyles.removeMatches startsOpen_comment

theorem OpensApart.tagless_removeMatches {text : List Char} (apart : OpensApart text) :
    Tagless (Markup.removeMatches tag text) := by
  intro opener pair
  have passed := passed_removeMatches startsOpen_tag text
  obtain ⟨back, _, refused⟩ := passed.exists_refused_of_infix apart pair
  exact tag_eq_none_iff.mp refused opener back rfl rfl

theorem OpensApart.tagless_strip {text : List Char} (apart : OpensApart text) :
    Tagless (strip text) :=
  apart.beforeTags.tagless_removeMatches.part (Text.trim_infix _)

/-! ## What stays as it is -/

/-- A match begins in no text in which no tag opens. -/
def Pattern.NeedsTag (pattern : Pattern) : Prop :=
  ∀ ⦃text after : List Char⦄, pattern text = some after → ¬ Tagless text

theorem removeMatches_eq_self {pattern : Pattern} (needs : pattern.NeedsTag)
    {text : List Char} (tagless : Tagless text) : removeMatches pattern text = text := by
  induction text with
  | nil => rfl
  | cons c rest ih =>
      have refused : pattern (c :: rest) = none := by
        cases matched : pattern (c :: rest) with
        | none => rfl
        | some after => exact absurd tagless (needs matched)
      have restTagless : Tagless rest := tagless.part (List.suffix_cons c rest).isInfix
      rw [removeMatches_cons_of_none refused, ih restTagless]

theorem not_tagless_of_prefix {opener : Char} (opens : opensTag opener = true)
    (rest : List Char) : ¬ Tagless ('<' :: opener :: rest) := by
  intro tagless
  have pair : ['<', opener] <+: '<' :: opener :: rest := List.prefix_append ['<', opener] rest
  have closed := tagless opener pair.isInfix
  simp [opens] at closed

theorem needsTag_tag : tag.NeedsTag := by
  intro text after matched
  obtain ⟨opener, inside, rfl, opens, _⟩ := tag_eq_some_iff.mp matched
  exact not_tagless_of_prefix opens inside

theorem needsTag_comment : comment.NeedsTag := by
  intro text after matched
  obtain ⟨inside, rfl, _⟩ := comment_eq_some_iff.mp matched
  exact not_tagless_of_prefix (by decide) _

theorem needsTag_throughClosingTag (name : List Char) :
    Pattern.NeedsTag (throughClosingTag name) := by
  intro text after found tagless
  induction text with
  | nil => simp [throughClosingTag] at found
  | cons c text ih =>
      unfold throughClosingTag at found
      split at found
      · rename_i left closing
        obtain ⟨rest, _, split, _, _⟩ := closingTag_eq_some_iff.mp closing
        rw [split] at tagless
        exact not_tagless_of_prefix opensTag_slash rest tagless
      · exact ih found (tagless.part (List.suffix_cons c text).isInfix)

/-- The first letter of a name may be one that makes no tag, but its closing tag is
one whatever letters it has. -/
theorem needsTag_element (name : List Char) : (element name).NeedsTag := by
  intro text after matched tagless
  obtain ⟨rest, attributes, content, rfl, named, closed, whole⟩ :=
    element_eq_some_iff.mp matched
  have inRest := (throughClose_suffix closed).trans (word_suffix named)
  have inText := inRest.trans (List.suffix_cons '<' rest)
  exact needsTag_throughClosingTag name whole (tagless.part inText.isInfix)

theorem strip_eq_self {text : List Char} (tagless : Tagless text)
    (bare : Text.BareEnds text) : strip text = text := by
  unfold strip
  rw [removeMatches_eq_self (needsTag_element scriptName) tagless,
    removeMatches_eq_self (needsTag_element styleName) tagless,
    removeMatches_eq_self needsTag_comment tagless,
    removeMatches_eq_self needsTag_tag tagless, Text.trim_eq_self bare]

/-- Where no two `<` stand side by side, stripping leaves no `<` in front of a
letter, `/`, `!` or `?`, and nothing for a second stripping to take. -/
theorem strip_of_opens_apart {text : List Char} (apart : ¬ ['<', '<'] <:+: text) :
    (∀ opener, opener.isAlpha = true ∨ opener ∈ ['/', '!', '?'] →
      ¬ ['<', opener] <:+: strip text) ∧
    strip (strip text) = strip text := by
  have tagless : Tagless (strip text) := OpensApart.tagless_strip apart
  refine ⟨?_, strip_eq_self tagless (Text.bareEnds_trim _)⟩
  intro opener makesTag pair
  have opens : opensTag opener = true := by
    simpa [opensTag, or_assoc] using makesTag
  have closed := tagless opener pair
  simp [opens] at closed

/-- A script inside of a tag, a style sheet that is not closed and a closing tag
that opens again: what is left has only a comparison. -/
theorem strip_of_nested_and_unfinished_tags :
    ¬ ['<', '<'] <:+: "<b <SCRIPT>x</script >>a < b</sc<ript><style>.c{}<!-- <i".toList ∧
      strip "<b <SCRIPT>x</script >>a < b</sc<ript><style>.c{}<!-- <i".toList =
        "a < b.c{}".toList ∧
      strip "a < b.c{}".toList = "a < b.c{}".toList := by
  have apart : ¬ ['<', '<'] <:+:
      "<b <SCRIPT>x</script >>a < b</sc<ript><style>.c{}<!-- <i".toList := by
    rw [pair_infix_iff]
    decide +kernel
  have stripped : strip "<b <SCRIPT>x</script >>a < b</sc<ript><style>.c{}<!-- <i".toList =
      "a < b.c{}".toList := by decide +kernel
  refine ⟨apart, stripped, ?_⟩
  have again := (strip_of_opens_apart apart).2
  rwa [stripped] at again

end PageInjection.Markup
