import PageInjection.Proofs.Text.ByteOrder
import PageInjection.Store.Database

/-!
# The order of the entries

The entries of a database stand in the order of their keys' bytes, each key once.
Every change keeps it so; and where it is so, what is found under a key and what
stands among the entries are the same.
-/

namespace PageInjection.Database

/-- Each key comes before the keys behind it. -/
def IsOrdered (entries : List (String × List UInt8)) : Prop :=
  entries.Pairwise fun left right => Text.byteLt left.1 right.1 = true

section Entries

variable {entries : List (String × List UInt8)} {key : String} {bytes : List UInt8}

theorem mem_place_iff {entry : String × List UInt8} :
    entry ∈ place key bytes entries ↔ entry = (key, bytes) ∨ entry ∈ entries := by
  induction entries with
  | nil => simp [place]
  | cons head tail ih =>
      unfold place
      split
      · exact List.mem_cons
      · rw [List.mem_cons, ih, List.mem_cons]
        exact or_left_comm

theorem IsOrdered.place (ordered : IsOrdered entries)
    (absent : ∀ entry ∈ entries, entry.1 ≠ key) : IsOrdered (place key bytes entries) := by
  induction entries with
  | nil => exact List.pairwise_singleton _ _
  | cons head tail ih =>
      obtain ⟨behind, rest⟩ := List.pairwise_cons.mp ordered
      rw [List.forall_mem_cons] at absent
      unfold Database.place
      split
      · rename_i before
        apply List.pairwise_cons.mpr
        refine ⟨?_, ordered⟩
        intro entry member
        rcases List.mem_cons.mp member with rfl | later
        · exact before
        · exact Text.byteLt_trans before (behind entry later)
      · rename_i notBefore
        apply List.pairwise_cons.mpr
        refine ⟨?_, ih rest absent.2⟩
        intro entry member
        rcases mem_place_iff.mp member with rfl | later
        · exact Text.byteLt_of_not_byteLt absent.1.symm notBefore
        · exact behind entry later

theorem IsOrdered.mem_iff_lookup_eq_some (ordered : IsOrdered entries) :
    (key, bytes) ∈ entries ↔ entries.lookup key = some bytes := by
  induction entries with
  | nil => simp
  | cons head tail ih =>
      obtain ⟨headKey, headBytes⟩ := head
      obtain ⟨behind, rest⟩ := List.pairwise_cons.mp ordered
      rw [List.mem_cons, ih rest, List.lookup_cons, Prod.mk.injEq]
      by_cases same : key = headKey
      · subst same
        have single : tail.lookup key ≠ some bytes := by
          intro found
          have before := behind _ ((ih rest).mpr found)
          exact Text.byteLt_irrefl key before
        simp [single, eq_comm]
      · rw [beq_eq_false_iff_ne.mpr same]
        simp [same]

end Entries

variable {database : Database}

def IsSorted (database : Database) : Prop :=
  IsOrdered database.entries

theorem IsSorted.empty : IsSorted .empty :=
  List.Pairwise.nil

theorem IsSorted.erase (sorted : database.IsSorted) (key : String) :
    (database.erase key).IsSorted :=
  List.Pairwise.filter _ sorted

theorem IsSorted.insert (sorted : database.IsSorted) (key : String) (bytes : List UInt8) :
    (database.insert key bytes).IsSorted := by
  apply IsOrdered.place (sorted.erase key)
  intro entry member
  simpa using (List.mem_filter.mp member).2

theorem IsSorted.put (sorted : database.IsSorted) (now : Int64) (fragment : Fragment) :
    (database.put now fragment).IsSorted := by
  unfold Database.put
  split
  · exact sorted.erase _
  · exact sorted.insert _ _

theorem IsSorted.setRules (sorted : database.IsSorted) (text : String) :
    (database.setRules text).IsSorted := by
  unfold Database.setRules
  split
  · exact sorted.erase _
  · exact sorted.insert _ _

theorem IsSorted.apply (sorted : database.IsSorted) (now : Int64) (change : StoreWrite) :
    (database.apply now change).IsSorted := by
  cases change with
  | setRules text => exact sorted.setRules text
  | setGlobal kind content => exact sorted.put now _
  | setResource id content => exact sorted.put now _
  | clearGlobal kind => exact sorted.erase _
  | clearResource id => exact sorted.erase _
  | flush => exact sorted
  | reopen => exact sorted

theorem IsSorted.mem_entries_iff (sorted : database.IsSorted) {key : String}
    {bytes : List UInt8} : (key, bytes) ∈ database.entries ↔ database.get? key = some bytes :=
  IsOrdered.mem_iff_lookup_eq_some sorted

end PageInjection.Database
