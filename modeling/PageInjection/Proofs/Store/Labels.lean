import PageInjection.Proofs.Store.Listing

/-!
# What is read carries the label of its slot

A record holds the scope and the kind of its fragment, and reading a slot trusts
them.  A store in memory has no such labels, and a run of changes leaves under the
key of each slot only records that carry the label of the slot; so every fragment
that is read from either is a fragment of the slot that was asked for.
-/

namespace PageInjection

/-- Every fragment that is read is a fragment of the slot that was asked for. -/
structure FragmentSource.IsLabelled (source : FragmentSource) : Prop where
  global : ∀ kind fragment, source.global kind = .ok fragment →
    fragment.slot = ⟨.global, kind⟩
  resource : ∀ id fragment, source.resource id = .ok fragment →
    fragment.slot = ⟨.resource id, .serverScript⟩

theorem MemoryStore.source_isLabelled (store : MemoryStore) : store.source.IsLabelled where
  global kind fragment read := by
    obtain rfl := Except.ok.inj read
    rfl
  resource id fragment read := by
    obtain rfl := Except.ok.inj read
    rfl

namespace Database

theorem Keeps.slot_of_read {database : Database} {run : List (Int64 × StoreWrite)}
    {slot : Slot} {fragment : Fragment} (keeps : Keeps database run)
    (storable : ∀ step ∈ run, step.2.IsStorable) (found : database.read slot = .ok fragment) :
    fragment.slot = slot := by
  unfold read at found
  rcases keeps.record_cases storable slot with ⟨none, _⟩ | ⟨record, some, _, same⟩
  · rw [none] at found
    obtain rfl := Except.ok.inj found
    rfl
  · rw [some] at found
    obtain rfl := Except.ok.inj found
    exact same

theorem source_after_isLabelled {run : List (Int64 × StoreWrite)}
    (storable : ∀ step ∈ run, step.2.IsStorable) : (after run).source.IsLabelled where
  global _ _ found := (keeps_after run).slot_of_read storable found
  resource _ _ found := (keeps_after run).slot_of_read storable found

end Database

namespace Injection

variable {injection : Injection}

/-- A fragment that cannot be read is unset, and that is a label of its slot too. -/
theorem slot_globalFragment (labelled : injection.source.IsLabelled) (kind : FragmentKind) :
    (injection.globalFragment kind).slot = ⟨.global, kind⟩ := by
  unfold globalFragment
  cases read : injection.source.global kind with
  | error fault => rfl
  | ok fragment => exact labelled.global kind fragment read

theorem slot_resourceFragment (labelled : injection.source.IsLabelled) (id : ResourceId) :
    (injection.resourceFragment id).slot = ⟨.resource id, .serverScript⟩ := by
  unfold resourceFragment
  cases read : injection.source.resource id with
  | error fault => rfl
  | ok fragment => exact labelled.resource id fragment read

end Injection

end PageInjection
