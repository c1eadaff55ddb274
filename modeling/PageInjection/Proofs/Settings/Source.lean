import PageInjection.Proofs.Settings.Taken

/-!
# Sources of settings

A source sets some settings and leaves the others alone.  When layers say what sources set,
the settings that they give have, under each key, the value from the last source that sets
it, and the default where none does.
-/

namespace PageInjection

namespace Settings

theorem value?_laidOver (upper lower : Settings) (chosen : String → String → Bool)
    (group name : String) :
    (upper.laidOver chosen lower).value? group name =
      if chosen group name then upper.value? group name else lower.value? group name := by
  unfold value?
  split
  · exact StoreSettings.value?_laidOver _ _ _ name
  · exact Limits.value?_laidOver _ _ _ name
  · exact LoggingSettings.value?_laidOver _ _ _ name
  · simp

variable {given : SettingTable} {values : Settings}

/-- A group is taken as a whole; under other names nothing is taken. -/
theorem group_setsOver
    (has : ∀ group name scalar, given group name = some scalar →
      values.value? group name = some scalar) :
    SetsOver group.set shape.fields
      (fun group value => ∃ items, value = .table items ∧ Setting.IsGroupOf (given group) items)
      (fun chosen => values.laidOver
        (fun group name => chosen group && (given group name).isSome) {}) where
  congr left right same := by
    simp only [shape, List.mem_cons, List.not_mem_nil, or_false, forall_eq_or_imp,
      forall_eq] at same
    simp only [laidOver, same]
  known chosen name known value isTable := by
    obtain ⟨items, rfl, isGroup⟩ := isTable
    simp only [shape, List.mem_cons, List.not_mem_nil, or_false] at known
    rcases known with rfl | rfl | rfl
    · have taken := Setting.Group.take_table (values.store.group_setsOver {})
        StoreSettings.missing_eq_default isGroup (has _)
      simp [group, laidOver, taken, bind, Except.bind, pure, Except.pure]
    · have taken := Setting.Group.take_table (values.sandbox.group_setsOver {})
        Limits.missing_eq_default isGroup (has _)
      simp [group, laidOver, taken, bind, Except.bind, pure, Except.pure]
    · have taken := Setting.Group.take_table (values.logging.group_setsOver {})
        LoggingSettings.missing_eq_default isGroup (has _)
      simp [group, laidOver, taken, bind, Except.bind, pure, Except.pure]
  unknown settings name value unknown := by
    simp only [shape, List.mem_cons, List.not_mem_nil, or_false, not_or] at unknown
    simp [group, unknown]

theorem take_table {members : List (String × Setting)}
    (isTable : Setting.IsTableOf given members)
    (has : ∀ group name scalar, given group name = some scalar →
      values.value? group name = some scalar) :
    group.take (.table members) =
      .ok (values.laidOver (fun group name => (given group name).isSome) {}) := by
  have taken : ∀ name value, (name, value) ∈ members → name ∈ shape.fields →
      ∃ items, value = .table items ∧ Setting.IsGroupOf (given name) items := by
    intro name value member _
    have found := (mem_iff_lookup_eq_some isTable.distinct).mp member
    obtain ⟨items, isGroup, held | ⟨absent, _⟩⟩ := isTable.exists_group name
    · exact ⟨items, Option.some.inj (found.symm.trans held), isGroup⟩
    · exact nomatch found.symm.trans absent
  have folded := (group_setsOver has).mapError.foldlM_eq taken fun _ => false
  have same : (fun group name => (members.map (·.1)).contains group && (given group name).isSome) =
      fun group name => (given group name).isSome := by
    funext group name
    obtain ⟨items, isGroup, held | ⟨_, rfl⟩⟩ := isTable.exists_group group
    · have known : group ∈ members.map (·.1) := isSome_lookup_iff.mp (by rw [held]; rfl)
      rw [List.contains_iff_mem.mpr known, Bool.true_and]
    · have none := isGroup.contains_eq name
      simp [← none]
  simp only [Bool.false_or, same] at folded
  rw [Setting.Group.take, Setting.Group.takeMembers]
  exact folded

end Settings

/-- What a source sets, and the values it gives there. -/
structure SettingSource where
  sets : String → String → Bool
  values : Settings
  given : ∀ group name, sets group name = true → (values.value? group name).isSome = true

namespace SettingSource

/-- A source that sets nothing. -/
def silent : SettingSource where
  sets _ _ := false
  values := {}
  given := by simp

/-- A source that sets some keys to the values that they have in some settings. -/
def ofKeys (keys : List (String × String)) (values : Settings)
    (given : ∀ key ∈ keys, (values.value? key.1 key.2).isSome = true) : SettingSource where
  sets group name := keys.contains (group, name)
  values := values
  given group name sets := given (group, name) (List.contains_iff_mem.mp sets)

def value? (source : SettingSource) : SettingTable := fun group name =>
  if source.sets group name then source.values.value? group name else none

theorem isSome_value? (source : SettingSource) (group name : String) :
    (source.value? group name).isSome = source.sets group name := by
  cases sets : source.sets group name with
  | false => simp [value?, sets]
  | true => simpa [value?, sets] using source.given group name sets

/-- One source above another. -/
def laidOver (upper lower : SettingSource) : SettingSource where
  sets group name := upper.sets group name || lower.sets group name
  values := upper.values.laidOver upper.sets lower.values
  given group name sets := by
    rw [Settings.value?_laidOver]
    split
    · rename_i set
      exact upper.given group name set
    · rename_i unset
      exact lower.given group name (by simpa [unset] using sets)

theorem value?_laidOver (upper lower : SettingSource) (group name : String) :
    (upper.laidOver lower).value? group name =
      (upper.value? group name).or (lower.value? group name) := by
  cases sets : upper.sets group name with
  | false => simp [value?, laidOver, Settings.value?_laidOver, sets]
  | true =>
      obtain ⟨scalar, found⟩ := Option.isSome_iff_exists.mp (upper.given group name sets)
      simp [value?, laidOver, Settings.value?_laidOver, sets, found]

/-- Many sources, the last one on top. -/
def stack : List SettingSource → SettingSource
  | [] => silent
  | source :: sources => (stack sources).laidOver source

theorem value?_stack (sources : List SettingSource) (group name : String) :
    (stack sources).value? group name =
      sources.reverse.findSome? fun source => source.value? group name := by
  induction sources with
  | nil => rfl
  | cons source sources ih => simp [stack, value?_laidOver, ih, List.findSome?_append]

theorem value?_eq_some {source : SettingSource} {group name : String} {scalar : SettingScalar}
    (found : source.value? group name = some scalar) :
    source.values.value? group name = some scalar := by
  unfold value? at found
  split at found
  · exact found
  · exact nomatch found

/-- The levels of modules have no single value. -/
theorem not_sets_modules (source : SettingSource) : source.sets "logging" "modules" = false := by
  cases sets : source.sets "logging" "modules" with
  | false => rfl
  | true => exact nomatch source.given _ _ sets

end SettingSource

namespace Settings

/-- Each setting has its value from the last source that sets it, or else its default. -/
def IsLayered (settings : Settings) (sources : List SettingSource) : Prop :=
  (∀ group name, settings.value? group name =
    (sources.reverse.findSome? fun source => source.value? group name).or
      (({} : Settings).value? group name)) ∧
  settings.logging.modules = []

theorem isLayered_over_stack (sources : List SettingSource) :
    ((SettingSource.stack sources).values.laidOver (SettingSource.stack sources).sets {}).IsLayered
      sources := by
  refine ⟨fun group name => ?_, ?_⟩
  · rw [value?_laidOver, ← SettingSource.value?_stack]
    cases sets : (SettingSource.stack sources).sets group name with
    | false => simp [SettingSource.value?, sets]
    | true =>
        obtain ⟨scalar, found⟩ :=
          Option.isSome_iff_exists.mp ((SettingSource.stack sources).given group name sets)
        simp [SettingSource.value?, sets, found]
  · simp [laidOver, LoggingSettings.laidOver, SettingSource.not_sets_modules]

/-- Layers that say what sources set give the settings of the sources, one above the other. -/
theorem exists_ofLayers_eq (saying : List (SettingLayer × SettingSource))
    (faithful : ∀ pair ∈ saying, pair.1.Says pair.2.value?) :
    ∃ settings, ofLayers (saying.map (·.1)) = .ok settings ∧
      settings.IsLayered (saying.map (·.2)) := by
  let source := SettingSource.stack (saying.map (·.2))
  have saidEach : ∀ pair ∈ saying.map fun pair => (pair.1, pair.2.value?), pair.1.Says pair.2 :=
    List.forall_mem_map.mpr faithful
  obtain ⟨members, merged, isTable⟩ := SettingLayer.exists_merge_eq saidEach
  have table : SettingLayer.lastSaid ((saying.map fun pair => (pair.1, pair.2.value?)).map (·.2)) =
      source.value? := by
    funext group name
    rw [SettingSource.value?_stack]
    simp [SettingLayer.lastSaid, ← List.map_reverse, List.findSome?_map, Function.comp_def]
  rw [table] at isTable
  have taken := take_table isTable fun group name scalar => SettingSource.value?_eq_some
  simp only [SettingSource.isSome_value?] at taken
  simp only [List.map_map, Function.comp_def] at merged
  refine ⟨_, ?_, isLayered_over_stack _⟩
  rw [ofLayers, merged, taken]

end Settings

end PageInjection
