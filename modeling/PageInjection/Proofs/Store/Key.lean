import PageInjection.Proofs.Text.Numeral
import PageInjection.Proofs.Text.Piece
import PageInjection.Store.Database

/-!
# Keys of slots

A key of a slot falls apart at its colons into the words it was made of.  Word by
word, no key begins another, so the key tells the slot; and no slot has the key of
the rule text.
-/

namespace PageInjection

namespace FragmentKind

/-- No name begins another. -/
theorem name_prefix_name_iff {left right : FragmentKind} :
    left.name.toList <+: right.name.toList ↔ left = right := by
  cases left <;> cases right <;> decide

theorem colon_not_mem_name (kind : FragmentKind) : ':' ∉ kind.name.toList := by
  cases kind <;> decide

end FragmentKind

theorem Text.colon_not_mem_decimal (value : Nat) : ':' ∉ Text.decimal value := by
  intro member
  exact absurd ((Text.isNumeral_decimal value).2 ':' member) (by decide)

theorem Text.isSome_dropLead?_iff {lead text : List Char} :
    (Text.dropLead? lead text).isSome = true ↔ lead <+: text := by
  rw [Option.isSome_iff_exists]
  constructor
  · rintro ⟨rest, dropped⟩
    exact ⟨rest, (Text.dropLead?_eq_some_iff.mp dropped).symm⟩
  · rintro ⟨rest, split⟩
    exact ⟨rest, Text.dropLead?_eq_some_iff.mpr split.symm⟩

theorem Scope.ne_global_iff {scope : Scope} : scope ≠ .global ↔ ∃ id, scope = .resource id := by
  cases scope <;> simp

namespace Slot

/-- The words of a slot's key. -/
def keyWords (slot : Slot) : List (List Char) :=
  match slot.scope with
  | .global => ["global".toList, slot.kind.name.toList]
  | .resource id => ["resource".toList, Text.decimal id.toNat, slot.kind.name.toList]

theorem toList_key_global (kind : FragmentKind) :
    (Slot.mk .global kind).key.toList = "global".toList ++ ':' :: kind.name.toList := by
  simp [Slot.key, globalLead]

theorem toList_key_resource (id : ResourceId) (kind : FragmentKind) :
    (Slot.mk (.resource id) kind).key.toList =
      "resource".toList ++ ':' :: (Text.decimal id.toNat ++ ':' :: kind.name.toList) := by
  simp [Slot.key, resourceLead]

theorem splitOn_key (slot : Slot) : Text.splitOn ':' slot.key.toList = slot.keyWords := by
  obtain ⟨scope, kind⟩ := slot
  have lastWord := Text.splitOn_of_not_mem kind.colon_not_mem_name
  cases scope with
  | global =>
      rw [toList_key_global, Text.splitOn_append_cons, lastWord]
      rfl
  | resource id =>
      rw [toList_key_resource, Text.splitOn_append_cons, Text.splitOn_append_cons, lastWord,
        Text.splitOn_of_not_mem (Text.colon_not_mem_decimal id.toNat)]
      rfl

/-- No key begins another: the colon behind an id keeps it from being read on. -/
theorem key_prefix_key_iff {left right : Slot} :
    left.key.toList <+: right.key.toList ↔ left = right := by
  obtain ⟨leftScope, leftKind⟩ := left
  obtain ⟨rightScope, rightKind⟩ := right
  -- Each word but the last ends at a colon, so these words are the same in both keys; this
  -- leaves the names, or two first words that differ.
  cases leftScope with
  | global =>
      cases rightScope with
      | global =>
          rw [toList_key_global, toList_key_global,
            Text.append_cons_prefix_append_cons_iff (by decide) (by decide),
            FragmentKind.name_prefix_name_iff]
          simp
      | resource right =>
          rw [toList_key_global, toList_key_resource,
            Text.append_cons_prefix_append_cons_iff (by decide) (by decide)]
          simp
  | resource left =>
      cases rightScope with
      | global =>
          rw [toList_key_resource, toList_key_global,
            Text.append_cons_prefix_append_cons_iff (by decide) (by decide)]
          simp
      | resource right =>
          rw [toList_key_resource, toList_key_resource,
            Text.append_cons_prefix_append_cons_iff (by decide) (by decide),
            Text.append_cons_prefix_append_cons_iff (Text.colon_not_mem_decimal left.toNat)
              (Text.colon_not_mem_decimal right.toNat),
            Text.decimal_inj, UInt64.toNat_inj, FragmentKind.name_prefix_name_iff]
          simp

/-- Different slots have different keys. -/
theorem key_inj {left right : Slot} : left.key = right.key ↔ left = right := by
  constructor
  · intro same
    exact key_prefix_key_iff.mp (same ▸ List.prefix_rfl)
  · rintro rfl
    rfl

theorem key_ne_rulesKey (slot : Slot) : slot.key ≠ rulesKey := by
  intro same
  have words : slot.keyWords = ["rules".toList] := by
    rw [← splitOn_key, same]
    decide
  obtain ⟨scope, kind⟩ := slot
  cases scope <;> simp [keyWords] at words

/-! ## What stands before a key -/

theorem globalLead_prefix_key_iff {slot : Slot} :
    globalLead.toList <+: slot.key.toList ↔ slot.scope = .global := by
  obtain ⟨scope, kind⟩ := slot
  cases scope with
  | global => simp [key, globalLead]
  | resource id => simp [key, globalLead, resourceLead]

theorem resourceLead_prefix_key_iff {slot : Slot} :
    resourceLead.toList <+: slot.key.toList ↔ slot.scope ≠ .global := by
  obtain ⟨scope, kind⟩ := slot
  cases scope with
  | global => simp [key, globalLead, resourceLead]
  | resource id => simp [key, resourceLead, List.append_assoc]

/-- Slots never collide.  Each has a key of its own, which is not that of the rules and
starts as its scope says; and no key goes on where another one ends. -/
theorem keys_never_collide :
    Function.Injective Slot.key ∧
      (∀ slot : Slot, slot.key ≠ rulesKey) ∧
      (∀ slot : Slot, "global:".toList <+: slot.key.toList ↔ slot.scope = .global) ∧
      (∀ slot : Slot, "resource:".toList <+: slot.key.toList ↔
        ∃ id, slot.scope = .resource id) ∧
      ∀ left right : Slot, left.key.toList <+: right.key.toList ↔ left = right := by
  refine ⟨?_, key_ne_rulesKey, fun slot => globalLead_prefix_key_iff, fun slot => ?_,
    fun left right => key_prefix_key_iff⟩
  · intro left right same
    exact key_inj.mp same
  · exact resourceLead_prefix_key_iff.trans Scope.ne_global_iff

/-- Only the colon behind it keeps an id from going on into a longer one. -/
example : (Slot.mk (.resource 1) .serverScript).key = "resource:1:server_script" ∧
    (Slot.mk (.resource 10) .serverScript).key = "resource:10:server_script" := by
  decide

end Slot

end PageInjection
