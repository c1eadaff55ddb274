import PageInjection.Fragment.Json
import PageInjection.Proofs.Json.Forms
import PageInjection.Proofs.Json.RoundTrip
import PageInjection.Proofs.Request.Categories
import PageInjection.Request.Json

/-!
# Requests and fragments in their forms

Fragments, stored fragments and request contexts are read back from each of their JSON
forms.  A record in a record may have any of its own forms, the optional fields of a context
may be missing, and its categories may come in any order and more than once.
-/

namespace PageInjection

open Json (IsWord IsRecord)

namespace Scope

/-- The forms of a scope: the word for every page, or the id of a resource under its word. -/
def IsForm : Scope → Json → Prop
  | .global, form => IsWord "Global" form
  | .resource id, form => form = .object [("Resource", .integer id.toNat)]

theorem ofJson_of_isForm {scope : Scope} {form : Json} (isForm : scope.IsForm form) :
    ofJson form = .ok scope := by
  cases scope with
  | global => cases isForm <;> rfl
  | resource id =>
      cases isForm
      change ((Json.toUInt64 "u64" (.integer id.toNat)).bind fun id => .ok (resource id)) = _
      rw [Json.toUInt64_toNat]
      rfl

theorem isForm_toJson (scope : Scope) : scope.IsForm scope.toJson := by
  cases scope with
  | global => exact .text
  | resource id => rfl

end Scope

theorem FragmentKind.ofJson_of_isWord {kind : FragmentKind} {form : Json}
    (isWord : IsWord kind.name form) : ofJson form = .ok kind :=
  Json.toWord_of_isWord (by cases kind <;> rfl) isWord

theorem ResourceType.ofJson_of_isWord {type : ResourceType} {form : Json}
    (isWord : IsWord type.name form) : ofJson form = .ok type :=
  Json.toWord_of_isWord (by cases type <;> rfl) isWord

namespace Fragment

/-- What a field of a fragment may be written as. -/
def Takes (fragment : Fragment) (name : String) (form : Json) : Prop :=
  match name with
  | "kind" => IsWord fragment.kind.name form
  | "scope" => fragment.scope.IsForm form
  | "content" => form = .text fragment.content
  | _ => False

/-- The forms of a fragment. -/
def IsForm (fragment : Fragment) : Json → Prop :=
  IsRecord shape.fields (fun _ => False) fragment.Takes

/-- The draft of a fragment for which some fields were read. -/
def drafted (fragment : Fragment) (chosen : String → Bool) : Draft where
  kind := if chosen "kind" then some fragment.kind else none
  scope := if chosen "scope" then some fragment.scope else none
  content := if chosen "content" then some fragment.content else none

theorem shape_makes (fragment : Fragment) :
    shape.Makes (fun _ => False) fragment.Takes fragment.drafted fragment where
  sets :=
    { congr := fun left right same => by
        simp only [shape, List.mem_cons, List.not_mem_nil, or_false, forall_eq_or_imp,
          forall_eq] at same
        simp only [drafted, same]
      known := fun chosen name known form takes => by
        simp only [shape, List.mem_cons, List.not_mem_nil, or_false] at known
        rcases known with rfl | rfl | rfl
        · have read := FragmentKind.ofJson_of_isWord takes
          simp [shape, drafted, read, bind, Except.bind, pure, Except.pure]
        · have read := Scope.ofJson_of_isForm takes
          simp [shape, drafted, read, bind, Except.bind, pure, Except.pure]
        · obtain rfl := takes
          simp [shape, drafted, Json.toText, bind, Except.bind, pure, Except.pure]
      unknown := fun draft name form unknown => by
        simp only [shape, List.mem_cons, List.not_mem_nil, or_false, not_or] at unknown
        simp [shape, unknown] }
  starts := rfl
  finishes chosen all := by
    simp only [shape, List.mem_cons, List.not_mem_nil, or_false, forall_eq_or_imp,
      forall_eq] at all
    simp [shape, drafted, all, Json.require, bind, Except.bind, pure, Except.pure]

theorem ofJson_of_isForm {fragment : Fragment} {form : Json} (isForm : fragment.IsForm form) :
    ofJson form = .ok fragment :=
  fragment.shape_makes.decode_eq isForm

theorem isForm_toJson (fragment : Fragment) : fragment.IsForm fragment.toJson := by
  refine ⟨by simp, ?_, by simp [shape]⟩
  simp only [List.mem_cons, List.not_mem_nil, or_false, Prod.mk.injEq]
  rintro name form (⟨rfl, rfl⟩ | ⟨rfl, rfl⟩ | ⟨rfl, rfl⟩) _
  · rfl
  · exact .text
  · exact fragment.scope.isForm_toJson

end Fragment

namespace StoredFragment

/-- What a field of a stored fragment may be written as. -/
def Takes (stored : StoredFragment) (name : String) (form : Json) : Prop :=
  match name with
  | "fragment" => stored.fragment.IsForm form
  | "updated_at_ms" => form = .integer stored.updatedAt.toInt
  | _ => False

/-- The forms of a stored fragment. -/
def IsForm (stored : StoredFragment) : Json → Prop :=
  IsRecord shape.fields (fun _ => False) stored.Takes

/-- The draft of a stored fragment for which some fields were read. -/
def drafted (stored : StoredFragment) (chosen : String → Bool) : Draft where
  fragment := if chosen "fragment" then some stored.fragment else none
  updatedAt := if chosen "updated_at_ms" then some stored.updatedAt else none

theorem shape_makes (stored : StoredFragment) :
    shape.Makes (fun _ => False) stored.Takes stored.drafted stored where
  sets :=
    { congr := fun left right same => by
        simp only [shape, List.mem_cons, List.not_mem_nil, or_false, forall_eq_or_imp,
          forall_eq] at same
        simp only [drafted, same]
      known := fun chosen name known form takes => by
        simp only [shape, List.mem_cons, List.not_mem_nil, or_false] at known
        rcases known with rfl | rfl
        · have read := Fragment.ofJson_of_isForm takes
          simp [shape, drafted, read, bind, Except.bind, pure, Except.pure]
        · obtain rfl := takes
          simp [shape, drafted, Json.toInt64_toInt, bind, Except.bind, pure, Except.pure]
      unknown := fun draft name form unknown => by
        simp only [shape, List.mem_cons, List.not_mem_nil, or_false, not_or] at unknown
        simp [shape, unknown] }
  starts := rfl
  finishes chosen all := by
    simp only [shape, List.mem_cons, List.not_mem_nil, or_false, forall_eq_or_imp,
      forall_eq] at all
    simp [shape, drafted, all, Json.require, bind, Except.bind, pure, Except.pure]

theorem ofJson_of_isForm {stored : StoredFragment} {form : Json} (isForm : stored.IsForm form) :
    ofJson form = .ok stored :=
  stored.shape_makes.decode_eq isForm

theorem isForm_toJson (stored : StoredFragment) : stored.IsForm stored.toJson := by
  refine ⟨by simp, ?_, by simp [shape]⟩
  simp only [List.mem_cons, List.not_mem_nil, or_false, Prod.mk.injEq]
  rintro name form (⟨rfl, rfl⟩ | ⟨rfl, rfl⟩) _
  · exact stored.fragment.isForm_toJson
  · rfl

end StoredFragment

namespace RequestContext

/-- The forms of a type that may be missing. -/
def IsTypeForm (type : Option ResourceType) (form : Json) : Prop :=
  match type with
  | none => form = .null
  | some type => IsWord type.name form

/-- What a field of a context may be written as, if its categories are written as a list. -/
def Takes (context : RequestContext) (slugs : List String) (name : String) (form : Json) : Prop :=
  match name with
  | "is_admin" => form = .bool context.isAdmin
  | "is_singular" => form = .bool context.isSingular
  | "resource_id" => form = .ofId? context.resourceId
  | "resource_slug" => form = .ofText? context.slug
  | "resource_title" => form = .ofText? context.title
  | "resource_type" => IsTypeForm context.type form
  | "category_slugs" => form = .ofTexts slugs
  | _ => False

/-- The optional fields of a context that are not set. -/
def Lacks (context : RequestContext) (name : String) : Prop :=
  match name with
  | "resource_id" => context.resourceId = none
  | "resource_slug" => context.slug = none
  | "resource_title" => context.title = none
  | "resource_type" => context.type = none
  | _ => False

/-- The forms of a context, with its categories in any order and number. -/
def IsForm (context : RequestContext) (form : Json) : Prop :=
  ∃ slugs, (∀ slug, slug ∈ slugs ↔ slug ∈ context.categories) ∧
    IsRecord shape.fields context.Lacks (context.Takes slugs) form

/-- The draft of a context for which some fields were read. -/
def drafted (context : RequestContext) (slugs : List String) (chosen : String → Bool) : Draft where
  isAdmin := if chosen "is_admin" then some context.isAdmin else none
  isSingular := if chosen "is_singular" then some context.isSingular else none
  resourceId := if chosen "resource_id" then context.resourceId else none
  slug := if chosen "resource_slug" then context.slug else none
  title := if chosen "resource_title" then context.title else none
  type := if chosen "resource_type" then context.type else none
  categories := if chosen "category_slugs" then some slugs else none

theorem toOption_of_isTypeForm {type : Option ResourceType} {form : Json}
    (isForm : IsTypeForm type form) : Json.toOption ResourceType.ofJson form = .ok type := by
  cases type with
  | none => cases isForm; rfl
  | some type =>
      have read := ResourceType.ofJson_of_isWord isForm
      cases isForm <;> simp [Json.toOption, read, Except.map]

theorem shape_makes {context : RequestContext} (isSet : IsSlugSet context.categories)
    {slugs : List String} (sameSlugs : ∀ slug, slug ∈ slugs ↔ slug ∈ context.categories) :
    shape.Makes context.Lacks (context.Takes slugs) (context.drafted slugs) context where
  sets :=
    { congr := fun left right same => by
        simp only [shape, List.mem_cons, List.not_mem_nil, or_false, forall_eq_or_imp,
          forall_eq] at same
        simp only [drafted, same]
      known := fun chosen name known form takes => by
        simp only [shape, List.mem_cons, List.not_mem_nil, or_false] at known
        rcases known with rfl | rfl | rfl | rfl | rfl | rfl | rfl
        · obtain rfl := takes
          simp [shape, drafted, Json.toBool, bind, Except.bind, pure, Except.pure]
        · obtain rfl := takes
          simp [shape, drafted, Json.toBool, bind, Except.bind, pure, Except.pure]
        · obtain rfl := takes
          simp [shape, drafted, Json.toOption_toUInt64, bind, Except.bind, pure, Except.pure]
        · obtain rfl := takes
          simp [shape, drafted, Json.toOption_toText, bind, Except.bind, pure, Except.pure]
        · obtain rfl := takes
          simp [shape, drafted, Json.toOption_toText, bind, Except.bind, pure, Except.pure]
        · have read := toOption_of_isTypeForm takes
          simp [shape, drafted, read, bind, Except.bind, pure, Except.pure]
        · obtain rfl := takes
          simp [shape, drafted, Json.toTexts_ofTexts, bind, Except.bind, pure, Except.pure]
      unknown := fun draft name form unknown => by
        simp only [shape, List.mem_cons, List.not_mem_nil, or_false, not_or] at unknown
        simp [shape, unknown] }
  starts := rfl
  finishes chosen all := by
    have optional {α : Type} {name : String} {field : Option α}
        (there : chosen name = true ∨ field = none) :
        (if chosen name = true then field else none) = field := by
      rcases there with present | unset <;> simp [*]
    simp only [shape, List.mem_cons, List.not_mem_nil, or_false, forall_eq_or_imp,
      forall_eq] at all
    obtain ⟨admin, singular, id, slug, title, type, categories⟩ := all
    have sorted : slugs.foldl (fun sorted slug => insertSlug slug sorted) [] =
        context.categories := isSet.slugSet_eq sameSlugs
    simp [shape, drafted, admin.resolve_right not_false, singular.resolve_right not_false,
      categories.resolve_right not_false, optional id, optional slug, optional title,
      optional type, sorted, Json.require, bind, Except.bind, pure, Except.pure]

theorem ofJson_of_isForm {context : RequestContext} (isSet : IsSlugSet context.categories)
    {form : Json} (isForm : context.IsForm form) : ofJson form = .ok context := by
  obtain ⟨slugs, sameSlugs, isRecord⟩ := isForm
  exact (shape_makes isSet sameSlugs).decode_eq isRecord

theorem isForm_toJson (context : RequestContext) : context.IsForm context.toJson := by
  refine ⟨context.categories, fun slug => Iff.rfl, by simp, ?_, by simp [shape]⟩
  simp only [List.mem_cons, List.not_mem_nil, or_false, Prod.mk.injEq]
  have typed : IsTypeForm context.type (.ofText? (context.type.map ResourceType.name)) := by
    cases context.type with
    | none => rfl
    | some type => exact .text
  rintro name form (⟨rfl, rfl⟩ | ⟨rfl, rfl⟩ | ⟨rfl, rfl⟩ | ⟨rfl, rfl⟩ | ⟨rfl, rfl⟩ | ⟨rfl, rfl⟩ |
    ⟨rfl, rfl⟩) _
  · rfl
  · rfl
  · rfl
  · rfl
  · rfl
  · rfl
  · exact typed

/-- Whatever a context is read from, its categories are a set. -/
theorem isSlugSet_of_ofJson {form : Json} {context : RequestContext}
    (read : ofJson form = .ok context) : IsSlugSet context.categories := by
  obtain ⟨draft, finished⟩ := Json.RecordShape.exists_finish_of_decode read
  cases categories : draft.categories with
  | none =>
      cases admin : draft.isAdmin <;> cases singular : draft.isSingular <;>
        simp [shape, Json.require, admin, singular, categories, bind, Except.bind] at finished
  | some slugs =>
      cases admin : draft.isAdmin <;> cases singular : draft.isSingular <;>
        simp [shape, Json.require, admin, singular, categories, bind, Except.bind, pure,
          Except.pure] at finished
      subst finished
      exact isSlugSet_slugSet slugs

end RequestContext

namespace Json

/-- Contexts, stored fragments and fragments are read back from every form that they may be
written in; a context has its categories in order, each once. -/
theorem records_read_back :
    ReadsBack (fun context => IsSlugSet context.categories) RequestContext.toJson
        RequestContext.ofJson RequestContext.IsForm ∧
      ReadsBack (fun _ => True) StoredFragment.toJson StoredFragment.ofJson
        StoredFragment.IsForm ∧
      ReadsBack (fun _ => True) Fragment.toJson Fragment.ofJson Fragment.IsForm := by
  refine ⟨.of_sound ?_ ?_ ?_, .of_sound ?_ ?_ ?_, .of_sound ?_ ?_ ?_⟩
  · exact fun context _ => context.isForm_toJson
  · exact fun _ _ isSet isForm => RequestContext.ofJson_of_isForm isSet isForm
  · exact fun _ _ read => RequestContext.isSlugSet_of_ofJson read
  · exact fun stored _ => stored.isForm_toJson
  · exact fun _ _ _ isForm => StoredFragment.ofJson_of_isForm isForm
  · exact fun _ _ _ => trivial
  · exact fun fragment _ => fragment.isForm_toJson
  · exact fun _ _ _ isForm => Fragment.ofJson_of_isForm isForm
  · exact fun _ _ _ => trivial

/-- A list that holds an object with its members out of order, and a context whose fields are
out of order or left out and whose categories are repeated. -/
theorem untidy_records_read_back :
    StoredFragment.ofJson (.list [
        .object [("scope", .object [("Global", .null)]), ("content", .text "p \x7b\x7d"),
          ("kind", .text "style")],
        .integer (-1)]) =
      .ok { fragment := ⟨.style, .global, "p \x7b\x7d"⟩, updatedAt := -1 } ∧
    RequestContext.ofJson (.object [("category_slugs", .ofTexts ["b", "a", "b"]),
        ("resource_type", .object [("post", .null)]),
        ("resource_id", .integer 18446744073709551615), ("is_singular", .bool true),
        ("is_admin", .bool false)]) =
      .ok { isSingular := true, resourceId := some 18446744073709551615, type := some .post
            categories := ["a", "b"] } := by
  obtain ⟨contexts, stored, _⟩ := records_read_back
  refine ⟨stored.reads _ _ trivial ⟨rfl, ?_⟩,
    contexts.reads _ _ (by decide +kernel) ⟨["b", "a", "b"], by simp [or_comm], by simp, ?_, ?_⟩⟩
  · simp only [StoredFragment.shape, List.zip_cons_cons, List.zip_nil_left, List.mem_cons,
      List.not_mem_nil, or_false, Prod.mk.injEq]
    rintro name form (⟨rfl, rfl⟩ | ⟨rfl, rfl⟩)
    · refine ⟨by simp, ?_, by simp [Fragment.shape]⟩
      simp only [List.mem_cons, List.not_mem_nil, or_false, Prod.mk.injEq]
      rintro name form (⟨rfl, rfl⟩ | ⟨rfl, rfl⟩ | ⟨rfl, rfl⟩) _
      · exact .object
      · rfl
      · exact .text
    · rfl
  · simp only [List.mem_cons, List.not_mem_nil, or_false, Prod.mk.injEq]
    rintro name form (⟨rfl, rfl⟩ | ⟨rfl, rfl⟩ | ⟨rfl, rfl⟩ | ⟨rfl, rfl⟩ | ⟨rfl, rfl⟩) _
    · rfl
    · exact .object
    · rfl
    · rfl
    · rfl
  · simp [RequestContext.shape, RequestContext.Lacks]

end Json

end PageInjection
