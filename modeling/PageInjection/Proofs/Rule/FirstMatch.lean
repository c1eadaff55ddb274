import PageInjection.Proofs.Rule.Grammar

/-!
# The first rule that fits

A request that is not an admin request is decided by the first token of the rule
text that fits it.  The gate is open exactly when there is one.
-/

namespace PageInjection

/-- A token of the text fits the request, and none of the tokens before it does. -/
structure IsFirstFit (context : RequestContext) (text token : List Char) : Prop where
  fits : TokenFits context token
  first : ∃ earlier later, RuleSet.tokens text = earlier ++ token :: later ∧
    ∀ other ∈ earlier, ¬ TokenFits context other

/-- A rule keeps the token it was read from. -/
theorem ConditionRule.token_ofToken (token : String) :
    (ConditionRule.ofToken token).token = token := by
  unfold ofToken
  split
  · rename_i all
    exact all.symm
  · split
    · rfl
    · split <;> rfl

namespace RuleSet

theorem find?_parse_eq_some_iff {text : String} {context : RequestContext}
    {rule : ConditionRule} :
    (RuleSet.parse text).rules.find? (·.fits context) = some rule ↔
      ∃ token, IsFirstFit context text.toList token ∧
        ConditionRule.ofToken (String.ofList token) = rule := by
  have decides : ∀ token : List Char,
      (ConditionRule.ofToken (String.ofList token)).fits context = true ↔
        TokenFits context token := fun _ => ConditionRule.fits_ofToken_iff
  unfold parse
  rw [List.find?_map, Option.map_eq_some_iff]
  apply exists_congr
  intro token
  apply and_congr_left'
  rw [List.find?_eq_some_iff_append]
  simp only [Function.comp_apply, Bool.not_eq_true', ← Bool.not_eq_true, decides]
  constructor
  · rintro ⟨fits, first⟩
    exact ⟨fits, first⟩
  · rintro ⟨fits, first⟩
    exact ⟨fits, first⟩

theorem firstMatch_eq_some_iff {rules : RuleSet} {context : RequestContext}
    {rule : ConditionRule} :
    rules.firstMatch context = some rule ↔
      context.isAdmin = false ∧ rules.rules.find? (·.fits context) = some rule := by
  unfold firstMatch
  cases context.isAdmin <;> simp

theorem firstMatch_parse_eq_some_iff {text : String} {context : RequestContext}
    {rule : ConditionRule} :
    (RuleSet.parse text).firstMatch context = some rule ↔ context.isAdmin = false ∧
      ∃ token, IsFirstFit context text.toList token ∧
        ConditionRule.ofToken (String.ofList token) = rule := by
  rw [firstMatch_eq_some_iff, find?_parse_eq_some_iff]

end RuleSet

/-- Only an admin request is turned away before the rules are looked at, and no rule
fits it anyway. -/
theorem shouldInject_eq_isSome_firstMatch (text : String) (context : RequestContext) :
    shouldInject text context = ((RuleSet.parse text).firstMatch context).isSome := by
  unfold shouldInject RuleSet.fits RuleSet.firstMatch
  cases context.isAdmin <;> rfl

theorem shouldInject_iff_exists_rule {text : String} {context : RequestContext} :
    shouldInject text context = true ↔
      context.isAdmin = false ∧ ∃ rule ∈ (RuleSet.parse text).rules, rule.fits context = true := by
  rw [shouldInject_eq_isSome_firstMatch]
  exact RuleSet.fits_iff

end PageInjection
