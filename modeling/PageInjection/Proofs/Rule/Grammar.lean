import PageInjection.Proofs.Text.Numeral
import PageInjection.Proofs.Text.Piece
import PageInjection.Proofs.Text.Trimmed
import PageInjection.Rule

/-!
# The grammar of rule texts

A rule text passes a request that is not an admin request when one of its tokens
fits.  `TokenFits` lists the ways a token can fit as alternatives that are all
open to every token; classifying a token first, as reading a rule text does,
decides the same.
-/

namespace PageInjection

/-- A token of a rule text: a piece between commas without the blanks at its
ends, unless nothing is left. -/
def IsRuleToken (text token : List Char) : Prop :=
  token ≠ [] ∧ ∃ piece, Text.IsPiece ',' text piece ∧ Text.Trimmed piece token

/-- The ways in which a token fits a request. -/
inductive TokenFits (context : RequestContext) (token : List Char) : Prop where
  | all : token = "all".toList → TokenFits context token
  | resourceId {digits : List Char} {id : ResourceId} :
      token = "post-".toList ++ digits → Text.IsNumeral digits →
      context.isSingular = true → context.resourceId = some id →
      Text.numeralValue digits = id.toNat → TokenFits context token
  | slug : context.isSingular = true → context.slug = some (String.ofList token) →
      TokenFits context token
  | named : context.isSingular = true →
      context.type = some .page ∨ context.type = some .post →
      (context.slug = some (String.ofList token) ∨
        context.title = some (String.ofList token) ∨
        ∃ id, Text.Spelled token id.toNat ∧ context.resourceId = some id) →
      TokenFits context token
  | category {name : List Char} : token = "category-".toList ++ name → name ≠ [] →
      String.ofList name ∈ context.categories → TokenFits context token

namespace ConditionRule

private theorem guard_eq_some_iff {condition : Prop} [Decidable condition] {value : Unit} :
    (guard condition : Option Unit) = some value ↔ condition := by
  by_cases holds : condition
  · exact iff_of_true (if_pos holds) holds
  · refine iff_of_false ?_ holds
    intro passed
    exact absurd ((if_neg holds).symm.trans passed) (by simp [failure])

theorem namesPageOrPost_iff {token : List Char} {context : RequestContext} :
    namesPageOrPost (String.ofList token) context = true ↔
      context.isPageOrPost = true ∧
        (context.slug = some (String.ofList token) ∨
          context.title = some (String.ofList token) ∨
          ∃ id : ResourceId, Text.uint64? token = some id ∧
            context.resourceId = some id) := by
  simp only [namesPageOrPost, Bool.or_eq_true, Bool.and_eq_true, beq_iff_eq,
    String.toList_ofList, or_assoc]
  cases Text.uint64? token <;> cases context.resourceId <;> simp [@eq_comm ResourceId]

theorem isPageOrPost_iff {context : RequestContext} :
    context.isPageOrPost = true ↔ context.isSingular = true ∧
      (context.type = some .page ∨ context.type = some .post) := by
  simp [RequestContext.isPageOrPost]

theorem singularResourceId_eq_some_iff {context : RequestContext} {id : ResourceId} :
    context.singularResourceId = some id ↔
      context.isSingular = true ∧ context.resourceId = some id := by
  simp [RequestContext.singularResourceId]

/-- What a token is tried as whatever its form. -/
theorem literalMatches_iff {token : List Char} {context : RequestContext} :
    literalMatches (String.ofList token) context = true ↔
      (context.isSingular = true ∧ context.slug = some (String.ofList token)) ∨
        (context.isPageOrPost = true ∧
          (context.slug = some (String.ofList token) ∨
            context.title = some (String.ofList token) ∨
            ∃ id : ResourceId, Text.uint64? token = some id ∧
              context.resourceId = some id)) := by
  simp only [literalMatches, Bool.or_eq_true, Bool.and_eq_true, beq_iff_eq,
    namesPageOrPost_iff]

/-- The id of a token is the value of its digits, when it fits in 64 bits. -/
theorem resourceIdOf?_eq_some_iff {token : List Char} {id : ResourceId} :
    resourceIdOf? token = some id ↔
      ∃ digits, token = "post-".toList ++ digits ∧ Text.IsNumeral digits ∧
        Text.numeralValue digits = id.toNat := by
  constructor
  · intro found
    obtain ⟨suffix, dropped, rest⟩ := Option.bind_eq_some_iff.mp found
    obtain ⟨_, guarded, read⟩ := Option.bind_eq_some_iff.mp rest
    have split := Text.dropLead?_eq_some_iff.mp dropped
    have allDigits := List.all_eq_true.mp (guard_eq_some_iff.mp guarded)
    obtain ⟨digits, same | signed, numeral, total⟩ := Text.uint64?_eq_some_iff.mp read
    · exact ⟨suffix, split, same ▸ numeral, same ▸ total⟩
    · exact absurd (allDigits '+' (by simp [signed])) (by decide)
  · rintro ⟨digits, split, numeral, total⟩
    apply Option.bind_eq_some_iff.mpr
    refine ⟨digits, Text.dropLead?_eq_some_iff.mpr split, ?_⟩
    apply Option.bind_eq_some_iff.mpr
    refine ⟨(), guard_eq_some_iff.mpr (List.all_eq_true.mpr numeral.2), ?_⟩
    exact Text.uint64?_eq_some_iff.mpr ⟨digits, .inl rfl, numeral, total⟩

theorem categoryOf?_eq_some_iff {token name : List Char} :
    categoryOf? token = some name ↔ token = "category-".toList ++ name ∧ name ≠ [] := by
  constructor
  · intro found
    obtain ⟨suffix, dropped, rest⟩ := Option.bind_eq_some_iff.mp found
    obtain ⟨_, guarded, returned⟩ := Option.bind_eq_some_iff.mp rest
    obtain rfl := Option.some.inj returned
    have written := guard_eq_some_iff.mp guarded
    exact ⟨Text.dropLead?_eq_some_iff.mp dropped, by simpa using written⟩
  · rintro ⟨split, written⟩
    apply Option.bind_eq_some_iff.mpr
    refine ⟨name, Text.dropLead?_eq_some_iff.mpr split, ?_⟩
    apply Option.bind_eq_some_iff.mpr
    exact ⟨(), guard_eq_some_iff.mpr (by simpa using written), rfl⟩

/-- The alternatives in terms of what reading a token looks for. -/
theorem tokenFits_iff {context : RequestContext} {token : List Char} :
    TokenFits context token ↔
      token = "all".toList ∨
      (∃ id, resourceIdOf? token = some id ∧ context.singularResourceId = some id) ∨
      literalMatches (String.ofList token) context = true ∨
      ∃ name, categoryOf? token = some name ∧
        context.inCategory (String.ofList name) = true := by
  simp only [resourceIdOf?_eq_some_iff, categoryOf?_eq_some_iff, literalMatches_iff,
    isPageOrPost_iff, Text.uint64?_eq_some_iff, singularResourceId_eq_some_iff,
    RequestContext.inCategory, List.contains_iff_mem]
  constructor
  · intro fits
    cases fits with
    | all same => exact .inl same
    | resourceId split numeral singular current total =>
        exact .inr (.inl ⟨_, ⟨_, split, numeral, total⟩, singular, current⟩)
    | slug singular same => exact .inr (.inr (.inl (.inl ⟨singular, same⟩)))
    | named singular type named =>
        exact .inr (.inr (.inl (.inr ⟨⟨singular, type⟩, named⟩)))
    | category split written member =>
        exact .inr (.inr (.inr ⟨_, ⟨split, written⟩, member⟩))
  · rintro (same | ⟨id, ⟨digits, split, numeral, total⟩, singular, current⟩ |
      (⟨singular, same⟩ | ⟨⟨singular, type⟩, named⟩) | ⟨name, ⟨split, written⟩, member⟩)
    · exact .all same
    · exact .resourceId split numeral singular current total
    · exact .slug singular same
    · exact .named singular type named
    · exact .category split written member

/-- A token with an id names no category. -/
theorem categoryOf?_eq_none_of_resourceIdOf? {token : List Char} {id : ResourceId}
    (found : resourceIdOf? token = some id) : categoryOf? token = none := by
  obtain ⟨digits, rfl, _⟩ := resourceIdOf?_eq_some_iff.mp found
  rfl

/-- Trying one form only, the one a token was classified as, decides what trying
all of them decides. -/
theorem fits_ofToken_iff {context : RequestContext} {token : List Char} :
    (ofToken (String.ofList token)).fits context = true ↔ TokenFits context token := by
  rw [tokenFits_iff]
  by_cases all : token = "all".toList
  · simp [ofToken, all, allToken, fits]
  · have notAll : String.ofList token ≠ allToken := by
      intro same
      exact all (by rw [← String.toList_ofList (l := token), same]; rfl)
    rw [or_iff_right all]
    cases resource : resourceIdOf? token with
    | some id =>
        simp [ofToken, notAll, resource, fits,
          categoryOf?_eq_none_of_resourceIdOf? resource]
    | none =>
        cases category : categoryOf? token with
        | some name => simp [ofToken, notAll, resource, category, fits]
        | none => simp [ofToken, notAll, resource, category, fits]

private theorem not_spelled_of_large {digits : List Char}
    (numeral : Text.IsNumeral digits) (large : UInt64.size ≤ Text.numeralValue digits)
    (id : ResourceId) : ¬ Text.Spelled digits id.toNat := by
  rintro ⟨other, rfl | signed, _, total⟩
  · have inRange := id.toNat_lt
    rw [total] at large
    exact absurd inRange (Nat.not_lt.mpr large)
  · exact Text.plus_not_mem numeral (by simp [signed])

private theorem not_numeral_of_mem {text : List Char} {c : Char} (member : c ∈ text)
    (other : c.isDigit = false) : ¬ Text.IsNumeral text := by
  intro numeral
  exact absurd (numeral.2 c member) (by simp [other])

private theorem not_spelled_post (digits : List Char) (value : Nat) :
    ¬ Text.Spelled ("post-".toList ++ digits) value := by
  rintro ⟨other, rfl | signed, numeral, _⟩
  · exact absurd numeral (not_numeral_of_mem (c := 'p') (by simp) (by decide))
  · exact absurd signed (by simp)

/-- A token whose digits have a value beyond 64 bits is a slug or a title and
nothing else. -/
theorem fits_ofToken_of_large {context : RequestContext} {digits token : List Char}
    (numeral : Text.IsNumeral digits) (large : UInt64.size ≤ Text.numeralValue digits)
    (form : token = "post-".toList ++ digits ∨ token = digits) :
    (ofToken (String.ofList token)).fits context = true ↔
      context.isSingular = true ∧
        (context.slug = some (String.ofList token) ∨
          (context.type = some .page ∨ context.type = some .post) ∧
            context.title = some (String.ofList token)) := by
  rw [fits_ofToken_iff]
  constructor
  · intro fits
    cases fits with
    | all same =>
        rcases form with rfl | rfl
        · exact absurd same (by simp)
        · exact absurd numeral (not_numeral_of_mem (c := 'a') (by simp [same]) (by decide))
    | @resourceId suffix id split suffixNumeral _ _ total =>
        rcases form with rfl | rfl
        · obtain rfl := List.append_cancel_left split
          exact absurd ⟨_, .inl rfl, numeral, total⟩ (not_spelled_of_large numeral large id)
        · exact absurd numeral (not_numeral_of_mem (c := 'p') (by simp [split]) (by decide))
    | slug singular same => exact ⟨singular, .inl same⟩
    | named singular type named =>
        rcases named with same | same | ⟨id, spelled, _⟩
        · exact ⟨singular, .inl same⟩
        · exact ⟨singular, .inr ⟨type, same⟩⟩
        · rcases form with rfl | rfl
          · exact absurd spelled (not_spelled_post digits id.toNat)
          · exact absurd spelled (not_spelled_of_large numeral large id)
    | category split _ _ =>
        rcases form with rfl | rfl
        · exact absurd split (by simp)
        · exact absurd numeral (not_numeral_of_mem (c := 'c') (by simp [split]) (by decide))
  · rintro ⟨singular, same | ⟨type, same⟩⟩
    · exact .slug singular same
    · exact .named singular type (.inr (.inl same))

end ConditionRule

theorem RuleSet.mem_tokens_iff {text token : List Char} :
    token ∈ RuleSet.tokens text ↔ IsRuleToken text token := by
  simp only [RuleSet.tokens, List.mem_filter, List.mem_map, Text.mem_splitOn_iff,
    Text.trim_eq_iff, IsRuleToken]
  simp [and_comm]

theorem RuleSet.fits_iff {rules : RuleSet} {context : RequestContext} :
    rules.fits context = true ↔
      context.isAdmin = false ∧ ∃ rule ∈ rules.rules, rule.fits context = true := by
  unfold fits firstMatch
  cases context.isAdmin <;> simp

theorem RuleSet.fits_parse_iff (ruleText : String) (context : RequestContext) :
    (RuleSet.parse ruleText).fits context = true ↔ context.isAdmin = false ∧
      ∃ token, IsRuleToken ruleText.toList token ∧ TokenFits context token := by
  simp only [RuleSet.fits_iff, RuleSet.parse, List.mem_map, ← RuleSet.mem_tokens_iff,
    ← ConditionRule.fits_ofToken_iff]
  constructor
  · rintro ⟨notAdmin, _, ⟨token, member, rfl⟩, fits⟩
    exact ⟨notAdmin, token, member, fits⟩
  · rintro ⟨notAdmin, token, member, fits⟩
    exact ⟨notAdmin, _, ⟨token, member, rfl⟩, fits⟩

/-- The gate decides the documented grammar: a request passes when it is no admin
request and some token fits it in one of the ways.  Digits beyond 64 bits are no
id, with `post-` in front or without, and are tried as slug and title. -/
theorem shouldInject_iff_exists_token :
    (∀ (ruleText : String) (context : RequestContext),
      shouldInject ruleText context = true ↔ context.isAdmin = false ∧
        ∃ token, IsRuleToken ruleText.toList token ∧ TokenFits context token) ∧
    (∀ (context : RequestContext) (digits token : List Char),
      Text.IsNumeral digits → UInt64.size ≤ Text.numeralValue digits →
      token = "post-".toList ++ digits ∨ token = digits →
      ((ConditionRule.ofToken (String.ofList token)).fits context = true ↔
        context.isSingular = true ∧
          (context.slug = some (String.ofList token) ∨
            (context.type = some .page ∨ context.type = some .post) ∧
              context.title = some (String.ofList token)))) := by
  refine ⟨?_, ?_⟩
  · intro ruleText context
    have fits := RuleSet.fits_parse_iff ruleText context
    simp only [shouldInject, Bool.and_eq_true, Bool.not_eq_true', fits]
    exact and_self_left
  · intro context digits token numeral large form
    exact ConditionRule.fits_ofToken_of_large numeral large form

/-- The first number beyond 64 bits is a title and no id. -/
theorem title_beyond_ids_fits :
    Text.IsNumeral "18446744073709551616".toList ∧
      UInt64.size ≤ Text.numeralValue "18446744073709551616".toList ∧
      (ConditionRule.ofToken (String.ofList "18446744073709551616".toList)).fits
        { isSingular := true, resourceId := some 0, type := some .page,
          title := some (String.ofList "18446744073709551616".toList) } = true := by
  have numeral : Text.IsNumeral "18446744073709551616".toList :=
    ⟨by decide, List.all_eq_true.mp (by decide)⟩
  have large : UInt64.size ≤ Text.numeralValue "18446744073709551616".toList := by
    decide
  refine ⟨numeral, large, ?_⟩
  exact (shouldInject_iff_exists_token.2 _ _ _ numeral large (.inr rfl)).mpr
    ⟨rfl, .inr ⟨.inl rfl, rfl⟩⟩

end PageInjection
