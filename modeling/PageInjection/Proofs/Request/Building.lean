import PageInjection.Proofs.Request.Categories
import PageInjection.Rule
import PageInjection.Sandbox

/-!
# Building a request

A context is built by settings that may come in any number and any order.  Of each
single-valued field it keeps what the last setting for it says, and of the categories all
that were ever given.  Nothing else of the settings is left in it.
-/

namespace PageInjection

namespace RequestSetting

/-! What a setting says about each field. -/

def admin? : RequestSetting → Option Bool
  | .admin value => some value
  | _ => none

def singular? : RequestSetting → Option Bool
  | .singular value => some value
  | _ => none

def resourceId? : RequestSetting → Option ResourceId
  | .resourceId id => some id
  | _ => none

def slug? : RequestSetting → Option String
  | .slug text => some text
  | _ => none

def title? : RequestSetting → Option String
  | .title text => some text
  | _ => none

def type? : RequestSetting → Option ResourceType
  | .type value => some value
  | _ => none

/-- The categories that a setting adds. -/
def slugs : RequestSetting → List String
  | .category text => [text]
  | .categories texts => texts
  | _ => []

/-- What is said last. -/
def last? {α : Type} (said? : RequestSetting → Option α) (settings : List RequestSetting) :
    Option α :=
  settings.reverse.findSome? said?

/-- The last settings for each field say the same, and the same categories are given. -/
structure SaySame (settings others : List RequestSetting) : Prop where
  admin : (last? admin? settings).getD false = (last? admin? others).getD false
  singular : (last? singular? settings).getD false = (last? singular? others).getD false
  resourceId : last? resourceId? settings = last? resourceId? others
  slug : last? slug? settings = last? slug? others
  title : last? title? settings = last? title? others
  type : last? type? settings = last? type? others
  slugs : ∀ slug, slug ∈ settings.flatMap slugs ↔ slug ∈ others.flatMap slugs

theorem last?_cons {α : Type} (said? : RequestSetting → Option α) (setting : RequestSetting)
    (settings : List RequestSetting) :
    last? said? (setting :: settings) = (last? said? settings).or (said? setting) := by
  simp [last?, List.findSome?_append]

/-- Where settings say only one thing, that is what they say last. -/
theorem last?_eq {α : Type} {said? : RequestSetting → Option α} {settings : List RequestSetting}
    {said : Option α}
    (only : ∀ value, (∃ setting ∈ settings, said? setting = some value) ↔ said = some value) :
    last? said? settings = said := by
  unfold last?
  cases found : settings.reverse.findSome? said? with
  | none =>
      cases said with
      | none => rfl
      | some value =>
          obtain ⟨setting, member, told⟩ := (only value).mpr rfl
          have silent := List.findSome?_eq_none_iff.mp found setting (List.mem_reverse.mpr member)
          exact nomatch silent.symm.trans told
  | some value =>
      obtain ⟨setting, member, told⟩ := List.exists_of_findSome?_eq_some found
      exact ((only value).mp ⟨setting, List.mem_reverse.mp member, told⟩).symm

end RequestSetting

namespace RequestContext

open RequestSetting

variable {context other : RequestContext} {settings : List RequestSetting}

/-- The context has what the last setting for each field says, or else its default, and
the set of all categories that were given. -/
structure IsDescribedBy (context : RequestContext) (settings : List RequestSetting) : Prop where
  isAdmin : context.isAdmin = (last? admin? settings).getD false
  isSingular : context.isSingular = (last? singular? settings).getD false
  resourceId : context.resourceId = last? resourceId? settings
  slug : context.slug = last? slug? settings
  title : context.title = last? title? settings
  type : context.type = last? type? settings
  isSlugSet : IsSlugSet context.categories
  mem_categories_iff : ∀ slug, slug ∈ context.categories ↔
    ∃ setting ∈ settings, slug ∈ setting.slugs
  inCategory_iff : ∀ slug, context.inCategory slug = true ↔
    ∃ setting ∈ settings, slug ∈ setting.slugs

theorem foldl_addCategory (context : RequestContext) (slugs : List String) :
    slugs.foldl addCategory context =
      { context with
        categories := slugs.foldl (fun sorted slug => insertSlug slug sorted)
          context.categories } := by
  induction slugs generalizing context with
  | nil => rfl
  | cons slug slugs ih => exact ih _

/-- One setting puts what it says into the fields and leaves all else as it was. -/
theorem apply_eq (context : RequestContext) (setting : RequestSetting) :
    context.apply setting =
      { isAdmin := setting.admin?.getD context.isAdmin
        isSingular := setting.singular?.getD context.isSingular
        resourceId := setting.resourceId?.or context.resourceId
        slug := setting.slug?.or context.slug
        title := setting.title?.or context.title
        type := setting.type?.or context.type
        categories := setting.slugs.foldl (fun sorted slug => insertSlug slug sorted)
          context.categories } := by
  cases setting with
  | categories slugs => exact foldl_addCategory context slugs
  | _ => rfl

/-- A field into which each setting puts what it says about it holds what is said last. -/
theorem field_foldl_apply {α : Type} (field : RequestContext → Option α)
    (said? : RequestSetting → Option α)
    (step : ∀ context setting, field (apply context setting) = (said? setting).or (field context))
    (context : RequestContext) (settings : List RequestSetting) :
    field (settings.foldl apply context) = (last? said? settings).or (field context) := by
  induction settings generalizing context with
  | nil => rfl
  | cons setting settings ih => rw [List.foldl_cons, ih, step, last?_cons, Option.or_assoc]

theorem categories_foldl_apply (context : RequestContext) (settings : List RequestSetting) :
    (settings.foldl apply context).categories =
      (settings.flatMap slugs).foldl (fun sorted slug => insertSlug slug sorted)
        context.categories := by
  induction settings generalizing context with
  | nil => rfl
  | cons setting settings ih =>
      rw [List.foldl_cons, ih, apply_eq, List.flatMap_cons, List.foldl_append]

theorem build_isDescribedBy (settings : List RequestSetting) :
    (build settings).IsDescribedBy settings := by
  have flag {field : RequestContext → Bool} {said? : RequestSetting → Option Bool}
      (unset : field {} = false)
      (step : ∀ context setting, field (apply context setting) =
        (said? setting).getD (field context)) :
      field (build settings) = (last? said? settings).getD false := by
    have folded := field_foldl_apply (fun context => some (field context)) said?
      (fun context setting => by rw [step, Option.or_some]) {} settings
    rw [unset, Option.or_some] at folded
    exact Option.some.inj folded
  have optional {α : Type} {field : RequestContext → Option α}
      {said? : RequestSetting → Option α} (unset : field {} = none)
      (step : ∀ context setting, field (apply context setting) =
        (said? setting).or (field context)) :
      field (build settings) = last? said? settings := by
    rw [build, field_foldl_apply field said? step, unset, Option.or_none]
  have mem_iff (slug : String) : slug ∈ (build settings).categories ↔
      ∃ setting ∈ settings, slug ∈ setting.slugs := by
    rw [build, categories_foldl_apply, mem_foldl_insertSlug_iff, List.mem_flatMap]
    exact or_iff_left List.not_mem_nil
  exact {
    isAdmin := flag rfl fun _ _ => by rw [apply_eq]
    isSingular := flag rfl fun _ _ => by rw [apply_eq]
    resourceId := optional rfl fun _ _ => by rw [apply_eq]
    slug := optional rfl fun _ _ => by rw [apply_eq]
    title := optional rfl fun _ _ => by rw [apply_eq]
    type := optional rfl fun _ _ => by rw [apply_eq]
    isSlugSet := by
      rw [build, categories_foldl_apply]
      exact IsSlugSet.foldl List.Pairwise.nil _
    mem_categories_iff := mem_iff
    inCategory_iff := fun slug => List.contains_iff_mem.trans (mem_iff slug) }

/-- Contexts are equal where they are described by settings that say the same. -/
theorem IsDescribedBy.unique {others : List RequestSetting}
    (described : context.IsDescribedBy settings) (again : other.IsDescribedBy others)
    (same : SaySame settings others) : context = other := by
  have categories : context.categories = other.categories := by
    refine described.isSlugSet.ext again.isSlugSet fun slug => ?_
    rw [described.mem_categories_iff, again.mem_categories_iff, ← List.mem_flatMap,
      ← List.mem_flatMap]
    exact same.slugs slug
  have isAdmin : context.isAdmin = other.isAdmin := by
    rw [described.isAdmin, again.isAdmin, same.admin]
  have isSingular : context.isSingular = other.isSingular := by
    rw [described.isSingular, again.isSingular, same.singular]
  have resourceId : context.resourceId = other.resourceId := by
    rw [described.resourceId, again.resourceId, same.resourceId]
  have slug : context.slug = other.slug := by
    rw [described.slug, again.slug, same.slug]
  have title : context.title = other.title := by
    rw [described.title, again.title, same.title]
  have type : context.type = other.type := by
    rw [described.type, again.type, same.type]
  cases context
  cases other
  rw [mk.injEq]
  exact ⟨isAdmin, isSingular, resourceId, slug, title, type, categories⟩

theorem build_eq_build_iff {others : List RequestSetting} :
    build settings = build others ↔ SaySame settings others := by
  refine ⟨fun same => ?_, (build_isDescribedBy settings).unique (build_isDescribedBy others)⟩
  have described := build_isDescribedBy settings
  have again := build_isDescribedBy others
  rw [← same] at again
  exact {
    admin := described.isAdmin.symm.trans again.isAdmin
    singular := described.isSingular.symm.trans again.isSingular
    resourceId := described.resourceId.symm.trans again.resourceId
    slug := described.slug.symm.trans again.slug
    title := described.title.symm.trans again.title
    type := described.type.symm.trans again.type
    slugs := fun slug => by
      rw [List.mem_flatMap, List.mem_flatMap]
      exact (described.mem_categories_iff slug).symm.trans (again.mem_categories_iff slug) }

/-- A context that is built keeps of its settings the last one for each field and all the
categories, and nothing of their order, number and repetition: contexts are equal exactly
when their settings say the same, and then scripts see the same and rules fit alike. -/
theorem built_context_keeps_last_settings (settings : List RequestSetting) :
    (build settings).IsDescribedBy settings ∧
      ∀ others, (build settings = build others ↔ SaySame settings others) ∧
        (SaySame settings others →
          (build settings).members = (build others).members ∧
          (∀ rule : ConditionRule, rule.fits (build settings) = rule.fits (build others)) ∧
          ∀ text, shouldInject text (build settings) = shouldInject text (build others)) := by
  refine ⟨build_isDescribedBy settings, fun others => ⟨build_eq_build_iff, fun same => ?_⟩⟩
  have built := build_eq_build_iff.mpr same
  exact ⟨congrArg members built, fun rule => congrArg rule.fits built,
    fun text => congrArg (shouldInject text) built⟩

/-- A request that is no longer an admin request, with a slug that was corrected and
categories that were given twice, is the one that was described without detours. -/
theorem built_context_of_detours :
    let settings : List RequestSetting :=
      [.category "tech", .admin true, .slug "abuot", .categories ["news", "\u00e9t\u00e9"],
        .slug "about", .category "news", .admin false]
    let others : List RequestSetting :=
      [.slug "about", .categories ["\u00e9t\u00e9", "tech", "tech", "news"]]
    SaySame settings others ∧
      build settings = { slug := some "about", categories := ["news", "tech", "\u00e9t\u00e9"] } ∧
      (build settings).members = (build others).members ∧
      ∀ text, shouldInject text (build settings) = shouldInject text (build others) := by
  intro settings others
  have same : SaySame settings others :=
    { admin := rfl
      singular := rfl
      resourceId := rfl
      slug := rfl
      title := rfl
      type := rfl
      slugs := fun slug => by
        simp only [settings, others, List.flatMap_cons, List.flatMap_nil, RequestSetting.slugs,
          List.mem_append, List.mem_cons, List.not_mem_nil, or_false, false_or]
        grind }
  have kept := (built_context_keeps_last_settings settings).2 others
  have alike := kept.2 same
  exact ⟨same, by decide +kernel, alike.1, alike.2.2⟩

end RequestContext

end PageInjection
