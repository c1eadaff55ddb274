import PageInjection.Json.Decode

/-!
# Values that are read back

Numbers, texts that may be missing and texts under names are read from the JSON they are
written as.  An object has its members in an order of its own, so that texts under names
come back in some order.
-/

namespace PageInjection.Json

theorem toUInt64_toNat (expected : String) (value : UInt64) :
    toUInt64 expected (.integer value.toNat) = .ok value := by
  have small : (value.toNat : Int) < 0x10000000000000000 := by
    have := value.toNat_lt
    omega
  simp [toUInt64, small]

theorem toInt64_toInt (value : Int64) : toInt64 (.integer value.toInt) = .ok value := by
  have least : -0x8000000000000000 ≤ value.toInt := value.le_toInt
  have largest : value.toInt < 0x8000000000000000 := value.toInt_lt
  simp [toInt64, least, largest]

theorem toOption_toUInt64 (expected : String) (id : Option UInt64) :
    toOption (toUInt64 expected) (ofId? id) = .ok id := by
  cases id with
  | none => rfl
  | some id =>
      simp only [ofId?, toOption, toUInt64_toNat]
      rfl

theorem toTexts_ofTexts (texts : List String) : toTexts (ofTexts texts) = .ok texts := by
  have read : (texts.map Json.text).mapM (toText "a string") = .ok texts := by
    induction texts with
    | nil => rfl
    | cons text texts ih =>
        rw [List.map_cons, List.mapM_cons, ih]
        rfl
  exact read

theorem toOption_toText (expected : String) (value : Option String) :
    toOption (toText expected) (ofText? value) = .ok value := by
  cases value <;> rfl

/-- A text under a name, as a member of an object. -/
def textMember (entry : String × String) : String × Json :=
  (entry.1, .text entry.2)

theorem exists_insertMember_eq {name : String} (level : String) {entries : List (String × String)}
    (fresh : name ∉ entries.map (·.1)) :
    ∃ longer : List (String × String),
      insertMember name (.text level) (entries.map textMember) = longer.map textMember ∧
      longer.Perm ((name, level) :: entries) := by
  induction entries with
  | nil => exact ⟨[(name, level)], rfl, .refl _⟩
  | cons entry entries ih =>
      obtain ⟨head, old⟩ := entry
      simp only [List.map_cons, List.mem_cons, not_or] at fresh
      simp only [List.map_cons, textMember, insertMember, if_neg fresh.1]
      split
      · exact ⟨(name, level) :: (head, old) :: entries, rfl, .refl _⟩
      · obtain ⟨longer, inserted, permuted⟩ := ih fresh.2
        refine ⟨(head, old) :: longer, by rw [inserted]; rfl, ?_⟩
        exact (permuted.cons _).trans (.swap _ _ _)

theorem exists_foldl_insertMember_eq {entries done : List (String × String)}
    (distinct : ((entries ++ done).map (·.1)).Nodup) :
    ∃ all : List (String × String), (entries.map textMember).foldl
        (fun sorted (name, value) => insertMember name value sorted) (done.map textMember) =
        all.map textMember ∧
      all.Perm (entries ++ done) := by
  induction entries generalizing done with
  | nil => exact ⟨done, rfl, .refl _⟩
  | cons entry entries ih =>
      obtain ⟨name, level⟩ := entry
      simp only [List.cons_append, List.map_cons, List.nodup_cons, List.map_append,
        List.mem_append, not_or] at distinct
      obtain ⟨⟨notLater, fresh⟩, rest⟩ := distinct
      obtain ⟨longer, inserted, permuted⟩ := exists_insertMember_eq level fresh
      have order : (entries ++ longer).Perm ((name, level) :: entries ++ done) :=
        (permuted.append_left entries).trans List.perm_middle
      have distinct : ((entries ++ longer).map (·.1)).Nodup := by
        refine (order.map (·.1)).nodup_iff.mpr ?_
        simpa [notLater, fresh] using rest
      obtain ⟨all, folded, all_perm⟩ := ih distinct
      refine ⟨all, ?_, all_perm.trans order⟩
      rw [List.map_cons, List.foldl_cons, ← folded, ← inserted]
      rfl

/-- Texts under names come back from the object they are written as, in some order. -/
theorem exists_toTextMap_ofMembers {entries : List (String × String)}
    (distinct : (entries.map (·.1)).Nodup) :
    ∃ read, toTextMap (ofMembers (entries.map fun (name, level) => (name, .text level))) =
        .ok read ∧
      read.Perm entries := by
  have all_distinct : ((entries ++ ([] : List (String × String))).map (·.1)).Nodup := by
    rwa [List.append_nil]
  obtain ⟨read, folded, permuted⟩ := exists_foldl_insertMember_eq all_distinct
  rw [List.append_nil] at permuted
  refine ⟨read, ?_, permuted⟩
  have written : ofMembers (entries.map fun (name, level) => (name, .text level)) =
      .object (read.map textMember) := congrArg Json.object folded
  rw [written]
  simp only [toTextMap, List.mapM_map]
  exact List.mapM_pure.trans (by simp [pure, Except.pure, textMember])

end PageInjection.Json
