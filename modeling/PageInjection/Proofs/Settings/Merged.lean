import PageInjection.Proofs.Entries
import PageInjection.Settings.Layer

/-!
# Merged layers

A layer says something about settings that are kept in groups: it has whole groups, or
single settings under a key with a point.  After a layer is laid over what was merged so
far, each setting has the value that the layer gives it, and the value that it had if the
layer gives it none.  So of many layers the last one that gives a setting a value decides.
-/

namespace PageInjection

/-- The values of settings, by group and name; some have none. -/
abbrev SettingTable := String → String → Option SettingScalar

namespace Setting

def scalar? : Setting → Option SettingScalar
  | .scalar _ value => some value
  | _ => none

section Alter

variable {name other : String} {change : Option Setting → Setting}
  {members : List (String × Setting)}

theorem lookup_alter :
    (alter name change members).lookup other =
      if other = name then some (change (members.lookup name)) else members.lookup other := by
  induction members with
  | nil =>
      by_cases same : other = name
      · simp [alter, same]
      · simp [alter, same, lookup_cons_of_ne]
  | cons member members ih =>
      obtain ⟨head, value⟩ := member
      by_cases found : head = name
      · subst found
        by_cases same : other = head
        · simp [alter, same]
        · simp [alter, same, lookup_cons_of_ne]
      · rw [alter, if_neg found, lookup_cons_of_ne (Ne.symm found)]
        by_cases same : other = head
        · simp [same, found]
        · rw [lookup_cons_of_ne same, lookup_cons_of_ne same, ih]

theorem map_fst_alter :
    (alter name change members).map (·.1) =
      if name ∈ members.map (·.1) then members.map (·.1) else members.map (·.1) ++ [name] := by
  induction members with
  | nil => simp [alter]
  | cons member members ih =>
      obtain ⟨head, value⟩ := member
      by_cases found : head = name
      · simp [alter, found]
      · rw [alter, if_neg found, List.map_cons, ih]
        by_cases later : name ∈ members.map (·.1)
        · simp [later]
        · simp only [if_neg later, List.map_cons, List.mem_cons, Ne.symm found, false_or,
            List.cons_append]

theorem nodup_alter (distinct : (members.map (·.1)).Nodup) :
    ((alter name change members).map (·.1)).Nodup := by
  rw [map_fst_alter]
  split
  · exact distinct
  · rename_i fresh
    refine List.nodup_append.mpr ⟨distinct, List.pairwise_singleton _ _, ?_⟩
    rintro left inside right new rfl
    exact fresh (List.mem_singleton.mp new ▸ inside)

end Alter

/-- A group whose settings are single values, each name once. -/
structure IsGroupOf (given : String → Option SettingScalar) (items : List (String × Setting)) :
    Prop where
  distinct : (items.map (·.1)).Nodup
  lookup_eq : ∀ name, (items.lookup name).map scalar? = (given name).map some

/-- A table of groups, each name once. -/
structure IsTableOf (given : SettingTable) (members : List (String × Setting)) : Prop where
  distinct : (members.map (·.1)).Nodup
  exists_group : ∀ group, ∃ items, IsGroupOf (given group) items ∧
    (members.lookup group = some (.table items) ∨ members.lookup group = none ∧ items = [])

/-- The items are single values, the ones that `said` has under their names. -/
def AreSaid (said : String → Option SettingScalar) (items : List (String × Setting)) : Prop :=
  ∀ item ∈ items, ∃ scalar, item.2.scalar? = some scalar ∧ said item.1 = some scalar

theorem onTop_of_scalar {value : Setting} {scalar : SettingScalar}
    (single : value.scalar? = some scalar) (old : Option Setting) : value.onTop old = value := by
  cases value with
  | scalar origin value => simp [onTop]
  | list origin items => exact nomatch single
  | table members => exact nomatch single

namespace IsGroupOf

variable {given said : String → Option SettingScalar} {items upper : List (String × Setting)}

theorem nil : IsGroupOf (fun _ => none) [] where
  distinct := List.nodup_nil
  lookup_eq _ := rfl

theorem congr (isGroup : IsGroupOf given items) (same : ∀ name, given name = said name) :
    IsGroupOf said items where
  distinct := isGroup.distinct
  lookup_eq name := (isGroup.lookup_eq name).trans (by rw [same])

theorem alter (name : String) {value : Setting} {scalar : SettingScalar}
    (isGroup : IsGroupOf given items) (single : value.scalar? = some scalar) :
    IsGroupOf (fun other => if other = name then some scalar else given other)
      (alter name (fun _ => value) items) where
  distinct := nodup_alter isGroup.distinct
  lookup_eq other := by
    rw [lookup_alter]
    by_cases same : other = name
    · simp [same, single]
    · simpa [same] using isGroup.lookup_eq other

/-- Items that are laid over a group give their names new values. -/
theorem onTopMembers (isGroup : IsGroupOf given items) (areSaid : AreSaid said upper) :
    IsGroupOf (fun name => if name ∈ upper.map (·.1) then said name else given name)
      (onTopMembers upper items) := by
  induction upper generalizing given items with
  | nil => simpa [Setting.onTopMembers] using isGroup
  | cons item upper ih =>
      obtain ⟨name, value⟩ := item
      obtain ⟨⟨scalar, single, found⟩, rest⟩ := List.forall_mem_cons.mp areSaid
      have single_onTop : (fun old => value.onTop old) = fun _ => value :=
        funext (onTop_of_scalar single)
      rw [Setting.onTopMembers, single_onTop]
      have laid := ih (isGroup.alter name single) rest
      refine laid.congr fun other => ?_
      by_cases later : other ∈ upper.map (·.1)
      · simp [later]
      · by_cases same : other = name
        · simp [same, found]
        · simp [later, same]

end IsGroupOf

theorem IsTableOf.congr {given said : SettingTable} {members : List (String × Setting)}
    (isTable : IsTableOf given members) (same : ∀ group name, given group name = said group name) :
    IsTableOf said members where
  distinct := isTable.distinct
  exists_group group := by
    obtain ⟨items, isGroup, held⟩ := isTable.exists_group group
    exact ⟨items, isGroup.congr (same group), held⟩

end Setting

namespace SettingLayer

open Setting (IsGroupOf IsTableOf AreSaid)

/-- The items of one group that an entry of a layer is about. -/
inductive Puts : String × Setting → String → List (String × Setting) → Prop where
  /-- A whole group. -/
  | whole {group : String} {items : List (String × Setting)} :
      SettingKey.ofText group = ⟨group, []⟩ → Puts (group, .table items) group items
  /-- A single setting, under a key with a point. -/
  | single {key group name : String} {value : Setting} :
      SettingKey.ofText key = ⟨group, [.name name]⟩ → Puts (key, value) group [(name, value)]

/-- What a layer lays over a table for one entry. -/
def putEntry (members : List (String × Setting)) (entry : String × Setting) :
    List (String × Setting) :=
  Setting.alter (SettingKey.ofText entry.1).first
    (SettingKey.lay entry.2 (SettingKey.ofText entry.1).steps) members

theorem onTop_eq_foldl (layer : SettingLayer) (members : List (String × Setting)) :
    layer.onTop members = layer.foldl putEntry members := rfl

theorem Puts.lookup_putEntry {entry : String × Setting} {group other : String}
    {items old members : List (String × Setting)} (puts : Puts entry group items)
    (held : members.lookup group = some (.table old) ∨ members.lookup group = none ∧ old = []) :
    (putEntry members entry).lookup other =
      if other = group then some (.table (Setting.onTopMembers items old))
      else members.lookup other := by
  cases puts with
  | whole plain =>
      rw [putEntry, Setting.lookup_alter, plain]
      rcases held with held | ⟨held, rfl⟩ <;> cases items <;>
        simp [held, SettingKey.lay, Setting.onTop, Setting.onTopMembers, Setting.members]
  | single path =>
      rw [putEntry, Setting.lookup_alter, path]
      rcases held with held | ⟨held, rfl⟩ <;>
        simp [held, SettingKey.lay, Setting.onTopMembers, Setting.members, Setting.nothing]

theorem Puts.unique {entry : String × Setting} {group other : String}
    {items others : List (String × Setting)} (puts : Puts entry group items)
    (again : Puts entry other others) : other = group ∧ others = items := by
  cases puts with
  | whole plain =>
      cases again with
      | whole _ => exact ⟨rfl, rfl⟩
      | single path => exact nomatch plain.symm.trans path
  | single path =>
      cases again with
      | whole plain => exact nomatch plain.symm.trans path
      | single again =>
          cases path.symm.trans again
          exact ⟨rfl, rfl⟩

/-- An entry has a value for a setting. -/
def Sets (entry : String × Setting) (group name : String) : Prop :=
  ∃ items, Puts entry group items ∧ name ∈ items.map (·.1)

/-- An entry has no values but those that `said` has. -/
def IsSaid (said : SettingTable) (entry : String × Setting) : Prop :=
  ∃ group items, Puts entry group items ∧ AreSaid (said group) items

/-- What a layer says: the values of its entries, and no others. -/
structure Says (layer : SettingLayer) (said : SettingTable) : Prop where
  isSaid : ∀ entry ∈ layer, IsSaid said entry
  complete : ∀ group name, (said group name).isSome = true → ∃ entry ∈ layer, Sets entry group name

theorem IsSaid.isSome {said : SettingTable} {entry : String × Setting} {group name : String}
    (isSaid : IsSaid said entry) (sets : Sets entry group name) :
    (said group name).isSome = true := by
  obtain ⟨_, _, puts, areSaid⟩ := isSaid
  obtain ⟨items, again, member⟩ := sets
  obtain ⟨rfl, rfl⟩ := puts.unique again
  obtain ⟨item, inside, rfl⟩ := List.mem_map.mp member
  obtain ⟨scalar, _, found⟩ := areSaid item inside
  rw [found]
  rfl

open Classical in
/-- One entry gives new values to the settings that it sets. -/
theorem IsSaid.putEntry {given said : SettingTable} {members : List (String × Setting)}
    {entry : String × Setting} (isSaid : IsSaid said entry) (isTable : IsTableOf given members) :
    IsTableOf
      (fun group name => if Sets entry group name then said group name else given group name)
      (putEntry members entry) := by
  obtain ⟨group, items, puts, areSaid⟩ := isSaid
  have sets_iff (other name : String) :
      Sets entry other name ↔ other = group ∧ name ∈ items.map (·.1) := by
    constructor
    · rintro ⟨others, again, member⟩
      obtain ⟨rfl, rfl⟩ := puts.unique again
      exact ⟨rfl, member⟩
    · rintro ⟨rfl, member⟩
      exact ⟨items, puts, member⟩
  obtain ⟨old, isGroup, held⟩ := isTable.exists_group group
  refine ⟨Setting.nodup_alter isTable.distinct, fun other => ?_⟩
  rw [puts.lookup_putEntry held]
  by_cases same : other = group
  · subst same
    refine ⟨_, ?_, .inl (if_pos rfl)⟩
    simpa [sets_iff] using isGroup.onTopMembers areSaid
  · obtain ⟨items, isGroup, held⟩ := isTable.exists_group other
    exact ⟨items, by simpa [sets_iff, same] using isGroup, by simpa [same] using held⟩

open Classical in
/-- Many entries give new values to the settings that some of them set. -/
theorem isTableOf_foldl_putEntry {given said : SettingTable} {members : List (String × Setting)}
    {layer : SettingLayer} (isSaid : ∀ entry ∈ layer, IsSaid said entry)
    (isTable : IsTableOf given members) :
    IsTableOf (fun group name => if ∃ entry ∈ layer, Sets entry group name then said group name
      else given group name) (layer.foldl putEntry members) := by
  induction layer generalizing given members with
  | nil => simpa using isTable
  | cons entry layer ih =>
      obtain ⟨first, rest⟩ := List.forall_mem_cons.mp isSaid
      have laid := ih rest (first.putEntry isTable)
      refine laid.congr fun group name => ?_
      by_cases sets : Sets entry group name
      · simp [sets]
      · simp [sets]

variable {layer : SettingLayer} {given said : SettingTable} {members : List (String × Setting)}

/-- Where a layer says nothing, everything stays as it was. -/
theorem Says.onTop (faithful : layer.Says said) (isTable : IsTableOf given members) :
    IsTableOf (fun group name => (said group name).or (given group name))
      (layer.onTop members) := by
  classical
  rw [onTop_eq_foldl]
  have laid := isTableOf_foldl_putEntry faithful.isSaid isTable
  refine laid.congr fun group name => ?_
  by_cases sets : ∃ entry ∈ layer, Sets entry group name
  · obtain ⟨entry, member, set⟩ := sets
    have some := (faithful.isSaid entry member).isSome set
    obtain ⟨scalar, found⟩ := Option.isSome_iff_exists.mp some
    rw [if_pos ⟨entry, member, set⟩, found, Option.some_or]
  · have none : said group name = none :=
      Option.not_isSome_iff_eq_none.mp fun some => sets (faithful.complete group name some)
    rw [if_neg sets, none, Option.none_or]

/-- The last of the tables that has a value for a setting decides. -/
def lastSaid (tables : List SettingTable) : SettingTable := fun group name =>
  tables.reverse.findSome? fun table => table group name

@[simp] theorem lastSaid_cons (table : SettingTable) (tables : List SettingTable)
    (group name : String) :
    lastSaid (table :: tables) group name = (lastSaid tables group name).or (table group name) := by
  simp [lastSaid, List.findSome?_append]

theorem isTableOf_foldl_onTop {saying : List (SettingLayer × SettingTable)}
    (faithful : ∀ pair ∈ saying, pair.1.Says pair.2) (isTable : IsTableOf given members) :
    IsTableOf (fun group name => (lastSaid (saying.map (·.2)) group name).or (given group name))
      ((saying.map (·.1)).foldl (fun members layer => layer.onTop members) members) := by
  induction saying generalizing given members with
  | nil => simpa [lastSaid] using isTable
  | cons pair saying ih =>
      obtain ⟨first, rest⟩ := List.forall_mem_cons.mp faithful
      simpa [Option.or_assoc] using ih rest (first.onTop isTable)

/-- Merged layers have what the last layer says that says anything. -/
theorem exists_merge_eq {saying : List (SettingLayer × SettingTable)}
    (faithful : ∀ pair ∈ saying, pair.1.Says pair.2) :
    ∃ members, merge (saying.map (·.1)) = .table members ∧
      IsTableOf (lastSaid (saying.map (·.2))) members := by
  have empty : IsTableOf (fun _ _ => none) [] :=
    ⟨List.nodup_nil, fun _ => ⟨[], .nil, .inr ⟨rfl, rfl⟩⟩⟩
  have merged := isTableOf_foldl_onTop faithful empty
  simp only [Option.or_none] at merged
  exact ⟨_, rfl, merged⟩

end SettingLayer

end PageInjection
