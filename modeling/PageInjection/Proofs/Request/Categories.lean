import PageInjection.Proofs.Text.ByteOrder
import PageInjection.Request

/-!
# Categories as a set

The categories of a request are a set of slugs, kept as a list in the order of the slugs'
bytes with each slug once.  Putting slugs in their places keeps it so, and a set is known
by its members.
-/

namespace PageInjection

/-- Slugs in the strict order of their bytes. -/
def IsSlugSet (slugs : List String) : Prop :=
  slugs.Pairwise fun left right => Text.encode left.toList < Text.encode right.toList

instance (slugs : List String) : Decidable (IsSlugSet slugs) :=
  inferInstanceAs (Decidable (slugs.Pairwise _))

/-- The set of the slugs in a list. -/
def slugSet (slugs : List String) : List String :=
  slugs.foldl (fun sorted slug => insertSlug slug sorted) []

theorem mem_insertSlug_iff {slug other : String} {sorted : List String} :
    other ∈ insertSlug slug sorted ↔ other = slug ∨ other ∈ sorted := by
  induction sorted with
  | nil => simp [insertSlug]
  | cons head tail ih =>
      unfold insertSlug
      split
      · rename_i same
        subst same
        simp
      · split
        · exact List.mem_cons
        · rw [List.mem_cons, ih, List.mem_cons]
          exact or_left_comm

theorem IsSlugSet.insertSlug {sorted : List String} (isSet : IsSlugSet sorted) (slug : String) :
    IsSlugSet (insertSlug slug sorted) := by
  induction sorted with
  | nil => exact List.pairwise_singleton _ _
  | cons head tail ih =>
      obtain ⟨behind, rest⟩ := List.pairwise_cons.mp isSet
      unfold PageInjection.insertSlug
      split
      · exact isSet
      · rename_i different
        split
        · rename_i before
          have first := Text.byteLt_iff.mp before
          refine List.pairwise_cons.mpr ⟨fun other member => ?_, isSet⟩
          rcases List.mem_cons.mp member with rfl | later
          · exact first
          · exact List.lt_trans first (behind other later)
        · rename_i notBefore
          refine List.pairwise_cons.mpr ⟨fun other member => ?_, ih rest⟩
          rcases mem_insertSlug_iff.mp member with rfl | later
          · exact Text.byteLt_iff.mp (Text.byteLt_of_not_byteLt different notBefore)
          · exact behind other later

theorem mem_foldl_insertSlug_iff {slug : String} {slugs sorted : List String} :
    slug ∈ slugs.foldl (fun sorted slug => insertSlug slug sorted) sorted ↔
      slug ∈ slugs ∨ slug ∈ sorted := by
  induction slugs generalizing sorted with
  | nil => simp
  | cons head slugs ih =>
      rw [List.foldl_cons, ih, mem_insertSlug_iff, List.mem_cons]
      exact or_left_comm.trans or_assoc.symm

theorem IsSlugSet.foldl {sorted : List String} (isSet : IsSlugSet sorted) (slugs : List String) :
    IsSlugSet (slugs.foldl (fun sorted slug => PageInjection.insertSlug slug sorted) sorted) := by
  induction slugs generalizing sorted with
  | nil => exact isSet
  | cons slug slugs ih => exact ih (isSet.insertSlug slug)

theorem mem_slugSet_iff {slug : String} {slugs : List String} :
    slug ∈ slugSet slugs ↔ slug ∈ slugs := by
  simp [slugSet, mem_foldl_insertSlug_iff]

theorem isSlugSet_slugSet (slugs : List String) : IsSlugSet (slugSet slugs) :=
  IsSlugSet.foldl List.Pairwise.nil slugs

theorem IsSlugSet.nodup {slugs : List String} (isSet : IsSlugSet slugs) : slugs.Nodup := by
  refine List.Pairwise.imp ?_ isSet
  rintro slug _ before rfl
  exact List.lt_irrefl _ before

/-- Two sets with the same members are the same list. -/
theorem IsSlugSet.ext {left right : List String} (isSet : IsSlugSet left)
    (alsoSet : IsSlugSet right) (same : ∀ slug, slug ∈ left ↔ slug ∈ right) : left = right := by
  have permuted := (List.perm_ext_iff_of_nodup isSet.nodup alsoSet.nodup).mpr same
  exact permuted.eq_of_pairwise
    (fun _ _ _ _ before after => absurd after (List.lt_asymm before)) isSet alsoSet

/-- A set is the set of any list that has its members, in any order and with repeats. -/
theorem IsSlugSet.slugSet_eq {sorted slugs : List String} (isSet : IsSlugSet sorted)
    (same : ∀ slug, slug ∈ slugs ↔ slug ∈ sorted) : slugSet slugs = sorted :=
  (isSlugSet_slugSet slugs).ext isSet fun slug => mem_slugSet_iff.trans (same slug)

end PageInjection
