import PageInjection.Proofs.Injection.Footer
import PageInjection.Proofs.Markup.HiddenClosing

/-!
# Emitted blocks as elements

The head and the client script's part of the footer are single elements, unless
the stored text hides a closing tag that stripping brings into being.
-/

namespace PageInjection.Markup

theorem markup_ofBlock (block : String → String) (content : String) :
    (RenderedPoint.ofBlock block content).markup = "" ∨
      (RenderedPoint.ofBlock block content).markup = block content := by
  unfold RenderedPoint.ofBlock
  split
  · exact .inl rfl
  · exact .inr rfl

theorem head_markup_cases (injection : Injection) (context : RequestContext) :
    (injection.head context).markup = "" ∨
      (injection.head context).markup =
        styleBlock (injection.globalFragment .style).content := by
  unfold Injection.head
  split
  · exact markup_ofBlock styleBlock _
  · exact .inl rfl

theorem clientPart_markup_cases (injection : Injection) (context : RequestContext) :
    (injection.clientPart context).markup = "" ∨
      (injection.clientPart context).markup =
        scriptBlock (injection.globalFragment .clientScript).content := by
  unfold Injection.clientPart
  split
  · exact markup_ofBlock scriptBlock _
  · exact .inl rfl

/-- A block is one element, closed by its last tag alone, exactly when its
content hides no closing tag; so are the head and the client script's part of
the footer whenever they are not empty. -/
theorem emitted_blocks_isElement_iff
    (css js : String) (injection : Injection) (context : RequestContext) :
    (IsElement styleName (styleBlock css).toList ↔
      ¬ HidesClosing styleName (beforeTags css.toList)) ∧
    (IsElement scriptName (scriptBlock js).toList ↔
      ¬ HidesClosing scriptName (beforeTags js.toList)) ∧
    ((injection.head context).markup = "" ∨
      (IsElement styleName (injection.head context).markup.toList ↔
        ¬ HidesClosing styleName
          (beforeTags (injection.globalFragment .style).content.toList))) ∧
    injection.footer context =
      injection.clientPart context ++ injection.globalScriptPart context ++
        injection.resourceFooter context ∧
    ((injection.clientPart context).markup = "" ∨
      (IsElement scriptName (injection.clientPart context).markup.toList ↔
        ¬ HidesClosing scriptName
          (beforeTags (injection.globalFragment .clientScript).content.toList))) := by
  refine ⟨isElement_styleBlock_iff css, isElement_scriptBlock_iff js, ?_,
    injection.footer_eq_parts context, ?_⟩
  · rcases head_markup_cases injection context with nothing | block
    · exact .inl nothing
    · rw [block]
      exact .inr (isElement_styleBlock_iff _)
  · rcases clientPart_markup_cases injection context with nothing | block
    · exact .inl nothing
    · rw [block]
      exact .inr (isElement_scriptBlock_iff _)

/-- A style sheet can close its own block: the tag between `<` and `/style>`
goes, and the closing tag stands. -/
theorem styleBlock_closed_by_content :
    styleBlock "<<b>/style>" = "<style></style></style>" ∧
      ¬ ∀ css : String, IsElement styleName (styleBlock css).toList := by
  have closed : styleBlock "<<b>/style>" = "<style></style></style>" := by decide +kernel
  refine ⟨closed, ?_⟩
  intro elements
  have only := (elements "<<b>/style>").2
  rw [closed] at only
  have early := only "</style></style>".toList ⟨"<style>".toList, by decide +kernel⟩
    (by decide +kernel)
  exact absurd early (by decide +kernel)

end PageInjection.Markup
