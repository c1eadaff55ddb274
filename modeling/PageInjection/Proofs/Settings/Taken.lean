import PageInjection.Proofs.Settings.Merged
import PageInjection.Proofs.Settings.Over
import PageInjection.Settings.Read

/-!
# Settings taken from merged layers

Where every value of a table is one that some settings have under its name, the table is
taken as these settings laid over the defaults.
-/

namespace PageInjection

/-- The value that a setting has in merged layers. -/
def StoreSettings.value? (settings : StoreSettings) : String → Option SettingScalar
  | "path" => some (.text settings.path)
  | _ => none

def Limits.value? (limits : Limits) : String → Option SettingScalar
  | "max_operations" => some (.whole limits.operations.toNat)
  | "max_call_levels" => some (.whole limits.callLevels.toNat)
  | "max_string_size" => some (.whole limits.stringBytes.toNat)
  | "max_array_size" => some (.whole limits.arrayItems.toNat)
  | "max_map_size" => some (.whole limits.mapMembers.toNat)
  | "max_output_bytes" => some (.whole limits.outputBytes.toNat)
  | "time_limit_ms" => some (.whole limits.milliseconds.toNat)
  | _ => none

/-- A log file that is not chosen has no value. -/
def LoggingSettings.value? (settings : LoggingSettings) : String → Option SettingScalar
  | "enabled" => some (.flag settings.enabled)
  | "level" => some (.text settings.level)
  | "format" => some (.text settings.format)
  | "output" => some (.text settings.output)
  | "file" => settings.file.map .text
  | "color" => some (.flag settings.color)
  | _ => none

def Settings.value? (settings : Settings) : SettingTable
  | "store" => settings.store.value?
  | "sandbox" => settings.sandbox.value?
  | "logging" => settings.logging.value?
  | _ => fun _ => none

/-- The value is the one that a group of settings has under a name. -/
def Setting.IsValueOf (given : String → Option SettingScalar) (name : String) (value : Setting) :
    Prop :=
  ∃ scalar, value.scalar? = some scalar ∧ given name = some scalar

theorem Setting.IsValueOf.exists_eq {given : String → Option SettingScalar} {name : String}
    {value : Setting} {scalar : SettingScalar} (isValue : IsValueOf given name value)
    (has : given name = some scalar) : ∃ origin, value = .scalar origin scalar := by
  obtain ⟨found, single, same⟩ := isValue
  obtain rfl := Option.some.inj (same.symm.trans has)
  cases value with
  | scalar origin value => exact ⟨origin, congrArg _ (Option.some.inj single)⟩
  | list origin items => exact nomatch single
  | table members => exact nomatch single

theorem Setting.toCount_whole (origin : Option String) (value : UInt64) :
    toCount (.scalar origin (.whole value.toNat)) = .ok value := by
  simp [toCount]

namespace StoreSettings

variable (chosen : String → Bool) (upper lower : StoreSettings)

theorem value?_eq_none {name : String} (unknown : name ∉ shape.fields) :
    upper.value? name = none := by
  simp only [shape, List.mem_singleton] at unknown
  simp [value?]

theorem value?_laidOver (name : String) :
    (upper.laidOver chosen lower).value? name =
      if chosen name then upper.value? name else lower.value? name := by
  by_cases known : name ∈ shape.fields
  · obtain rfl := List.mem_singleton.mp known
    cases found : chosen "path" <;> simp [value?, laidOver, found]
  · simp [value?_eq_none _ known]

theorem group_setsOver :
    SetsOver group.set shape.fields (Setting.IsValueOf upper.value?) (upper.laidOver · lower) where
  congr _ _ := laidOver_congr upper lower
  known chosen name known value isValue := by
    obtain rfl := List.mem_singleton.mp known
    obtain ⟨origin, rfl⟩ := isValue.exists_eq rfl
    simp [group, laidOver, Setting.toText, bind, Except.bind, pure, Except.pure]
  unknown settings name value unknown := by
    simp only [shape, List.mem_singleton] at unknown
    simp [group]

end StoreSettings

namespace Limits

variable (chosen : String → Bool) (upper lower : Limits)

theorem value?_eq_none {name : String} (unknown : name ∉ shape.fields) :
    upper.value? name = none := by
  simp only [shape, List.mem_cons, List.not_mem_nil, or_false, not_or] at unknown
  simp [value?, unknown]

theorem value?_laidOver (name : String) :
    (upper.laidOver chosen lower).value? name =
      if chosen name then upper.value? name else lower.value? name := by
  by_cases known : name ∈ shape.fields
  · simp only [shape, List.mem_cons, List.not_mem_nil, or_false] at known
    rcases known with rfl | rfl | rfl | rfl | rfl | rfl | rfl <;>
      cases found : chosen _ <;> simp [value?, laidOver, found]
  · simp [value?_eq_none _ known]

theorem group_setsOver :
    SetsOver group.set shape.fields (Setting.IsValueOf upper.value?) (upper.laidOver · lower) where
  congr _ _ := laidOver_congr upper lower
  known chosen name known value isValue := by
    simp only [shape, List.mem_cons, List.not_mem_nil, or_false] at known
    rcases known with rfl | rfl | rfl | rfl | rfl | rfl | rfl <;>
      obtain ⟨origin, rfl⟩ := isValue.exists_eq rfl <;>
      simp [group, laidOver, Setting.toCount_whole, bind, Except.bind, pure, Except.pure]
  unknown settings name value unknown := by
    simp only [shape, List.mem_cons, List.not_mem_nil, or_false, not_or] at unknown
    simp [group, unknown]

end Limits

namespace LoggingSettings

variable (chosen : String → Bool) (upper lower : LoggingSettings)

theorem value?_eq_none {name : String} (unknown : name ∉ shape.fields) :
    upper.value? name = none := by
  simp only [shape, List.mem_cons, List.not_mem_nil, or_false, not_or] at unknown
  simp [value?, unknown]

theorem value?_laidOver (name : String) :
    (upper.laidOver chosen lower).value? name =
      if chosen name then upper.value? name else lower.value? name := by
  by_cases known : name ∈ shape.fields
  · simp only [shape, List.mem_cons, List.not_mem_nil, or_false] at known
    rcases known with rfl | rfl | rfl | rfl | rfl | rfl | rfl <;>
      cases found : chosen _ <;> simp [value?, laidOver, found]
  · simp [value?_eq_none _ known]

theorem group_setsOver :
    SetsOver group.set shape.fields (Setting.IsValueOf upper.value?) (upper.laidOver · lower) where
  congr _ _ := laidOver_congr upper lower
  known chosen name known value isValue := by
    simp only [shape, List.mem_cons, List.not_mem_nil, or_false] at known
    rcases known with rfl | rfl | rfl | rfl | rfl | rfl | rfl
    -- A log file has a value only if one is chosen, and the modules have none at all.
    case inr.inr.inr.inr.inl =>
      obtain ⟨scalar, single, has⟩ := isValue
      obtain ⟨file, found, rfl⟩ := Option.map_eq_some_iff.mp has
      obtain ⟨origin, rfl⟩ := Setting.IsValueOf.exists_eq ⟨_, single, has⟩ has
      simp [group, laidOver, found, Setting.toText?, Setting.toText, Except.map, bind,
        Except.bind, pure, Except.pure]
    case inr.inr.inr.inr.inr.inr =>
      obtain ⟨scalar, _, has⟩ := isValue
      simp [value?] at has
    all_goals
      obtain ⟨origin, rfl⟩ := isValue.exists_eq rfl
      simp [group, laidOver, Setting.toText, Setting.toFlag, bind, Except.bind, pure, Except.pure]
  unknown settings name value unknown := by
    simp only [shape, List.mem_cons, List.not_mem_nil, or_false, not_or] at unknown
    simp [group, unknown]

end LoggingSettings

section Groups

variable {State : Type} {set : State → String → Setting → Except SettingFault State}
  {fields : List String} {takes : String → Setting → Prop} {laidOver : (String → Bool) → State}

@[simp] theorem mapError_ok {α ε ε' : Type} (change : ε → ε') (value : α) :
    (Except.ok value : Except ε α).mapError change = .ok value := rfl

/-- A fault under a name is named differently; that does not matter where there is none. -/
theorem SetsOver.mapError (sets : SetsOver set fields takes laidOver) :
    SetsOver (fun state name value => (set state name value).mapError (SettingFault.under name))
      fields takes laidOver where
  congr := sets.congr
  known chosen name known value taken := by
    simp [sets.known chosen name known value taken]
  unknown state name value unknown := by
    simp [sets.unknown state name value unknown]

end Groups

namespace Setting

theorem IsGroupOf.isValueOf {given : String → Option SettingScalar}
    {items : List (String × Setting)} (isGroup : IsGroupOf given items) {name : String}
    {value : Setting} (member : (name, value) ∈ items) : IsValueOf given name value := by
  have found := (mem_iff_lookup_eq_some isGroup.distinct).mp member
  have same := isGroup.lookup_eq name
  rw [found, Option.map_some] at same
  obtain ⟨scalar, has, single⟩ := Option.map_eq_some_iff.mp same.symm
  exact ⟨scalar, single.symm, has⟩

theorem IsGroupOf.contains_eq {given : String → Option SettingScalar}
    {items : List (String × Setting)} (isGroup : IsGroupOf given items) (name : String) :
    (items.map (·.1)).contains name = (given name).isSome := by
  have same := congrArg Option.isSome (isGroup.lookup_eq name)
  rw [Option.isSome_map, Option.isSome_map] at same
  rw [← same, Bool.eq_iff_iff, isSome_lookup_iff, List.contains_iff_mem]

/-- A group is taken as the settings that have its values, laid over the defaults. -/
theorem Group.take_table {State : Type} {group : Group State} {fields : List String}
    {laidOver : (String → Bool) → State} {given values : String → Option SettingScalar}
    {items : List (String × Setting)}
    (sets : SetsOver group.set fields (IsValueOf values) laidOver)
    (defaults : group.defaults = laidOver fun _ => false) (isGroup : IsGroupOf given items)
    (has : ∀ name scalar, given name = some scalar → values name = some scalar) :
    group.take (.table items) = .ok (laidOver fun name => (given name).isSome) := by
  have taken : ∀ name value, (name, value) ∈ items → name ∈ fields →
      IsValueOf values name value := by
    intro name value member _
    obtain ⟨scalar, single, found⟩ := isGroup.isValueOf member
    exact ⟨scalar, single, has name scalar found⟩
  have folded := sets.mapError.foldlM_eq taken fun _ => false
  simp only [Bool.false_or, isGroup.contains_eq] at folded
  rw [take, takeMembers, defaults, folded]

end Setting

end PageInjection
