import PageInjection.Sandbox

/-!
# What scripts see of a request

A script is given the request as a map.  The map tells two requests apart by everything
that a script may know of them, with one restriction: ids are shown as whole numbers of
the script language, and an id that is greater than all of these is shown as if it were
unset.
-/

namespace PageInjection

open Script

namespace RequestContext

/-- The id, if it is a whole number of the script language. -/
def shownId (context : RequestContext) : Option ResourceId :=
  context.resourceId.filter fun id => Value.inRange id.toNat

/-- Nothing that scripts are shown is different. -/
structure LooksLike (first second : RequestContext) : Prop where
  isSingular : first.isSingular = second.isSingular
  shownId : first.shownId = second.shownId
  slug : first.slug = second.slug
  title : first.title = second.title
  type : first.type = second.type
  categories : first.categories = second.categories

end RequestContext

theorem ResourceType.name_injective : Function.Injective ResourceType.name := by
  intro left right same
  have words := congrArg ResourceType.ofWord? same
  rwa [ofWord?_name, ofWord?_name, Option.some.injEq] at words

namespace Script.Value

theorem inRange_toNat_iff {id : ResourceId} :
    inRange id.toNat = true ↔ id.toNat < 0x8000000000000000 := by
  unfold inRange leastInt greatestInt
  rw [Bool.and_eq_true, decide_eq_true_eq, decide_eq_true_eq]
  omega

/-- What is shown of something that may be unset tells whether it is set and to what. -/
theorem getD_map_unit_inj {α : Type} {shown : α → Value} (injective : Function.Injective shown)
    (set : ∀ item, shown item ≠ .unit) {left right : Option α} :
    (left.map shown).getD .unit = (right.map shown).getD .unit ↔ left = right := by
  cases left with
  | none =>
      cases right with
      | none => simp
      | some item => simpa using (set item).symm
  | some item =>
      cases right with
      | none => simpa using set item
      | some other => simpa using injective.eq_iff

theorem int_toNat_injective : Function.Injective fun id : ResourceId => int id.toNat := by
  intro left right same
  exact UInt64.toNat_inj.mp (Int.ofNat.inj (int.inj same))

theorem list_map_text_inj {left right : List String} :
    list (left.map text).toArray = list (right.map text).toArray ↔ left = right := by
  rw [list.injEq]
  constructor
  · intro same
    exact (List.map_inj_right fun _ _ => text.inj).mp (List.toArray_inj same)
  · rintro rfl
    rfl

end Script.Value

namespace RequestContext

theorem members_eq (context : RequestContext) :
    context.members =
      [("categories", .list (context.categories.map .text).toArray),
        ("resource_id", (context.shownId.map fun id => .int id.toNat).getD .unit),
        ("singular", .bool context.isSingular),
        ("slug", (context.slug.map .text).getD .unit),
        ("title", (context.title.map .text).getD .unit),
        ("type", ((context.type.map ResourceType.name).map .text).getD .unit)] := by
  unfold members shownId
  cases context.resourceId with
  | none => rfl
  | some id =>
      simp only [Option.filter_some, Value.inRange_toNat_iff]
      by_cases shown : id.toNat < 0x8000000000000000
      · simp only [shown, if_true, Option.map_some, Option.getD_some]
      · simp only [shown, if_false, Option.map_none, Option.getD_none]

theorem memberOf?_resourceId (context : RequestContext) :
    Value.memberOf? "resource_id" context.members =
      some ((context.shownId.map fun id => .int id.toNat).getD .unit) := by
  rw [members_eq]
  rfl

theorem members_eq_iff {first second : RequestContext} :
    first.members = second.members ↔ first.LooksLike second := by
  have text_inj {left right : Option String} :
      (left.map Value.text).getD .unit = (right.map Value.text).getD .unit ↔ left = right :=
    Value.getD_map_unit_inj (fun _ _ => Value.text.inj) nofun
  have id_inj : (first.shownId.map fun id => Value.int id.toNat).getD .unit =
      (second.shownId.map fun id => Value.int id.toNat).getD .unit ↔
        first.shownId = second.shownId :=
    Value.getD_map_unit_inj Value.int_toNat_injective nofun
  have type_inj : first.type.map ResourceType.name = second.type.map ResourceType.name ↔
      first.type = second.type :=
    (Option.map_injective ResourceType.name_injective).eq_iff
  simp only [members_eq, List.cons.injEq, Prod.mk.injEq, true_and, and_true,
    Value.list_map_text_inj, Value.bool.injEq, text_inj, id_inj, type_inj]
  constructor
  · rintro ⟨categories, shownId, isSingular, slug, title, type⟩
    exact ⟨isSingular, shownId, slug, title, type, categories⟩
  · rintro ⟨isSingular, shownId, slug, title, type, categories⟩
    exact ⟨categories, shownId, isSingular, slug, title, type⟩

end RequestContext

/-- The map tells requests apart by all that is shown of them: by being for one resource,
by id, slug, title, type and categories.  An id within the whole numbers of scripts is
told from every other id and from an unset one. -/
theorem scripts_tell_requests_apart (first second : RequestContext) :
    (first.members = second.members ↔ first.LooksLike second) ∧
    ((∃ slug, first.inCategory slug ≠ second.inCategory slug) →
      first.members ≠ second.members) ∧
    ∀ id, first.resourceId = some id → Value.inRange id.toNat = true →
      second.resourceId ≠ some id →
      Value.memberOf? "resource_id" first.members ≠
        Value.memberOf? "resource_id" second.members := by
  refine ⟨RequestContext.members_eq_iff, ?_, ?_⟩
  · rintro ⟨slug, different⟩ same
    have looks := RequestContext.members_eq_iff.mp same
    exact different (congrArg (·.contains slug) looks.categories)
  · intro id known shown different same
    have firstShown : first.shownId = some id := Option.filter_eq_some_iff.mpr ⟨known, shown⟩
    rw [first.memberOf?_resourceId, second.memberOf?_resourceId, Option.some.injEq,
      Value.getD_map_unit_inj Value.int_toNat_injective nofun, firstShown] at same
    exact different (Option.filter_eq_some_iff.mp same.symm).1

/-- The greatest whole number of scripts is told from the next id, which looks unset, and
a page with a category from one without. -/
theorem scripts_tell_greatest_id_and_category :
    let first : RequestContext :=
      { isSingular := true, resourceId := some 0x7FFFFFFFFFFFFFFF, categories := ["news"] }
    let second : RequestContext :=
      { isSingular := true, resourceId := some 0x8000000000000000 }
    first.inCategory "news" ≠ second.inCategory "news" ∧ first.members ≠ second.members ∧
      first.resourceId = some 0x7FFFFFFFFFFFFFFF ∧
      Value.inRange (0x7FFFFFFFFFFFFFFF : ResourceId).toNat = true ∧
      second.resourceId ≠ some 0x7FFFFFFFFFFFFFFF ∧
      Value.memberOf? "resource_id" first.members ≠
        Value.memberOf? "resource_id" second.members := by
  intro first second
  have category : first.inCategory "news" ≠ second.inCategory "news" := by decide
  have shown : Value.inRange (0x7FFFFFFFFFFFFFFF : ResourceId).toNat = true := by decide
  have different : second.resourceId ≠ some 0x7FFFFFFFFFFFFFFF := by decide
  have apart := scripts_tell_requests_apart first second
  exact ⟨category, apart.2.1 ⟨"news", category⟩, rfl, shown, different,
    apart.2.2 _ rfl shown different⟩

/-- The first id that is no whole number of scripts looks as if there were none. -/
theorem members_eq_of_id_too_large :
    let first : RequestContext := { isSingular := true, resourceId := some 0x8000000000000000 }
    let second : RequestContext := { isSingular := true }
    first.resourceId ≠ second.resourceId ∧ first.members = second.members := by
  exact ⟨by decide, rfl⟩

end PageInjection
