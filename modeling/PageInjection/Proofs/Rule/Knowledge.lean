import PageInjection.Proofs.Rule.FirstMatch

/-!
# Knowing more about a request

A request can become better known: what was unset gets a value, a resource of some
other type turns out to be a page, categories are added.  No rule asks for what is
missing.  A rule that fits therefore goes on fitting, and the first rule that fits can
only move to the front.
-/

namespace PageInjection

/-- What is known of a type at first, and later on. -/
inductive ResourceType.Narrows : Option ResourceType → Option ResourceType → Prop where
  | same (type : Option ResourceType) : Narrows type type
  | unset (type : ResourceType) : Narrows none (some type)
  | page : Narrows (some .other) (some .page)
  | post : Narrows (some .other) (some .post)

/-- All that is known of the first request is known of the second. -/
structure RequestContext.KnowsLess (less more : RequestContext) : Prop where
  isAdmin : less.isAdmin = more.isAdmin
  isSingular : less.isSingular = true → more.isSingular = true
  resourceId : ∀ id, less.resourceId = some id → more.resourceId = some id
  slug : ∀ text, less.slug = some text → more.slug = some text
  title : ∀ text, less.title = some text → more.title = some text
  type : ResourceType.Narrows less.type more.type
  categories : ∀ slug ∈ less.categories, slug ∈ more.categories

variable {less more : RequestContext}

theorem ResourceType.Narrows.pageOrPost {known later : Option ResourceType}
    (narrows : Narrows known later) (found : known = some .page ∨ known = some .post) :
    later = some .page ∨ later = some .post := by
  cases narrows with
  | same => exact found
  | unset type => simp at found
  | page => simp at found
  | post => simp at found

namespace ConditionRule

theorem isPageOrPost_mono (grows : less.KnowsLess more) (holds : less.isPageOrPost = true) :
    more.isPageOrPost = true := by
  obtain ⟨singular, type⟩ := isPageOrPost_iff.mp holds
  exact isPageOrPost_iff.mpr ⟨grows.isSingular singular, grows.type.pageOrPost type⟩

theorem singularResourceId_mono (grows : less.KnowsLess more) {id : ResourceId}
    (current : less.singularResourceId = some id) : more.singularResourceId = some id := by
  obtain ⟨singular, known⟩ := singularResourceId_eq_some_iff.mp current
  exact singularResourceId_eq_some_iff.mpr
    ⟨grows.isSingular singular, grows.resourceId id known⟩

theorem literalMatches_mono (grows : less.KnowsLess more) {token : String}
    (fits : literalMatches token less = true) : literalMatches token more = true := by
  rw [← String.ofList_toList (s := token), literalMatches_iff] at fits ⊢
  rcases fits with ⟨singular, slug⟩ | ⟨pageOrPost, named⟩
  · exact .inl ⟨grows.isSingular singular, grows.slug _ slug⟩
  · refine .inr ⟨isPageOrPost_mono grows pageOrPost, ?_⟩
    rcases named with slug | title | ⟨id, spelled, known⟩
    · exact .inl (grows.slug _ slug)
    · exact .inr (.inl (grows.title _ title))
    · exact .inr (.inr ⟨id, spelled, grows.resourceId id known⟩)

theorem fits_mono (grows : less.KnowsLess more) {rule : ConditionRule}
    (fits : rule.fits less = true) : rule.fits more = true := by
  cases rule with
  | all => rfl
  | resourceId id raw =>
      simp only [ConditionRule.fits, Bool.or_eq_true, beq_iff_eq] at fits ⊢
      exact fits.imp (singularResourceId_mono grows) (literalMatches_mono grows)
  | category name raw =>
      simp only [ConditionRule.fits, Bool.or_eq_true, RequestContext.inCategory,
        List.contains_iff_mem] at fits ⊢
      exact fits.imp (literalMatches_mono grows) (grows.categories name)
  | literal raw => exact literalMatches_mono grows fits

end ConditionRule

namespace RuleSet

/-- The rule at a position decides for the request: it fits, and none before it does. -/
structure FitsFirstAt (rules : RuleSet) (context : RequestContext) (position : Nat) : Prop where
  inside : position < rules.rules.length
  found : rules.firstMatch context = some rules.rules[position]
  first : ∀ earlier, (before : earlier < position) →
    rules.rules[earlier].fits context = false

variable {rules : RuleSet} {context : RequestContext}

theorem fitsFirstAt_iff {position : Nat} :
    rules.FitsFirstAt context position ↔ context.isAdmin = false ∧
      position < rules.rules.length ∧ rules.rules.findIdx (·.fits context) = position := by
  constructor
  · rintro ⟨inside, matched, first⟩
    obtain ⟨notAdmin, found⟩ := firstMatch_eq_some_iff.mp matched
    exact ⟨notAdmin, inside, (List.findIdx_eq inside).mpr ⟨List.find?_some found, first⟩⟩
  · rintro ⟨notAdmin, inside, place⟩
    obtain ⟨fits, first⟩ := (List.findIdx_eq inside).mp place
    have found : rules.rules.find? (·.fits context) = some rules.rules[position] := by
      rw [List.find?_eq_some_iff_getElem]
      exact ⟨fits, position, inside, rfl, fun earlier before => by simp [first earlier before]⟩
    exact ⟨inside, firstMatch_eq_some_iff.mpr ⟨notAdmin, found⟩, first⟩

/-- Whatever rule decides at first, it is that rule or an earlier one that decides when
more is known. -/
theorem FitsFirstAt.mono (grows : less.KnowsLess more) {position : Nat}
    (decides : rules.FitsFirstAt less position) :
    ∃ earlier ≤ position, rules.FitsFirstAt more earlier := by
  obtain ⟨notAdmin, inside, rfl⟩ := fitsFirstAt_iff.mp decides
  have notLater : rules.rules.findIdx (·.fits more) ≤ rules.rules.findIdx (·.fits less) :=
    List.findIdx_le_findIdx fun _ _ => ConditionRule.fits_mono grows
  refine ⟨_, notLater, fitsFirstAt_iff.mpr ⟨grows.isAdmin ▸ notAdmin, ?_, rfl⟩⟩
  exact Nat.lt_of_le_of_lt notLater inside

end RuleSet

/-- Knowing more about a request closes no gate that was open, and the rule that opens it
does not move back. -/
theorem shouldInject_of_knowsLess (text : String) (grows : less.KnowsLess more) :
    (shouldInject text less = true → shouldInject text more = true) ∧
      ∀ position, (RuleSet.parse text).FitsFirstAt less position →
        ∃ earlier ≤ position, (RuleSet.parse text).FitsFirstAt more earlier := by
  refine ⟨?_, fun position => RuleSet.FitsFirstAt.mono grows⟩
  intro passes
  obtain ⟨notAdmin, rule, member, fits⟩ := shouldInject_iff_exists_rule.mp passes
  apply shouldInject_iff_exists_rule.mpr
  exact ⟨grows.isAdmin ▸ notAdmin, rule, member, ConditionRule.fits_mono grows fits⟩

/-- An attachment of which a category is known turns out to be a page with a title, and
the rule before that of the category decides. -/
theorem shouldInject_of_attachment_known_as_page :
    let text := "post-7, Our Team, category-news"
    let less : RequestContext :=
      { isSingular := true, type := some .other, categories := ["news"] }
    let more : RequestContext :=
      { isSingular := true, type := some .page, title := some "Our Team",
        categories := ["local", "news"] }
    less.KnowsLess more ∧ (RuleSet.parse text).FitsFirstAt less 2 ∧
      (RuleSet.parse text).FitsFirstAt more 1 ∧ shouldInject text more = true ∧
      ∃ earlier ≤ 2, (RuleSet.parse text).FitsFirstAt more earlier := by
  intro text less more
  have grows : less.KnowsLess more :=
    { isAdmin := rfl
      isSingular := fun singular => singular
      resourceId := by simp [less]
      slug := by simp [less]
      title := by simp [less]
      type := .page
      categories := by simp [less, more] }
  have decides : (RuleSet.parse text).FitsFirstAt less 2 :=
    RuleSet.fitsFirstAt_iff.mpr (by decide +kernel)
  have decidesMore : (RuleSet.parse text).FitsFirstAt more 1 :=
    RuleSet.fitsFirstAt_iff.mpr (by decide +kernel)
  have kept := shouldInject_of_knowsLess text grows
  exact ⟨grows, decides, decidesMore, kept.1 (by decide +kernel), kept.2 2 decides⟩

end PageInjection
