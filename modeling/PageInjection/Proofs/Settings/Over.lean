import PageInjection.Settings

/-!
# Settings laid over others

`upper.laidOver chosen lower` has the settings of `upper` under the chosen names and those of
`lower` under all others.  Groups of settings are read name by name; if each name that is
read takes its setting from the same place, what is read is that place laid over what was
there before.
-/

namespace PageInjection

def StoreSettings.laidOver (upper : StoreSettings) (chosen : String → Bool)
    (lower : StoreSettings) : StoreSettings where
  path := if chosen "path" then upper.path else lower.path

def Limits.laidOver (upper : Limits) (chosen : String → Bool) (lower : Limits) : Limits where
  operations := if chosen "max_operations" then upper.operations else lower.operations
  callLevels := if chosen "max_call_levels" then upper.callLevels else lower.callLevels
  stringBytes := if chosen "max_string_size" then upper.stringBytes else lower.stringBytes
  arrayItems := if chosen "max_array_size" then upper.arrayItems else lower.arrayItems
  mapMembers := if chosen "max_map_size" then upper.mapMembers else lower.mapMembers
  outputBytes := if chosen "max_output_bytes" then upper.outputBytes else lower.outputBytes
  milliseconds := if chosen "time_limit_ms" then upper.milliseconds else lower.milliseconds

def LoggingSettings.laidOver (upper : LoggingSettings) (chosen : String → Bool)
    (lower : LoggingSettings) : LoggingSettings where
  enabled := if chosen "enabled" then upper.enabled else lower.enabled
  level := if chosen "level" then upper.level else lower.level
  format := if chosen "format" then upper.format else lower.format
  output := if chosen "output" then upper.output else lower.output
  file := if chosen "file" then upper.file else lower.file
  color := if chosen "color" then upper.color else lower.color
  modules := if chosen "modules" then upper.modules else lower.modules

/-- The choice is made by section and name. -/
def Settings.laidOver (upper : Settings) (chosen : String → String → Bool) (lower : Settings) :
    Settings where
  store := upper.store.laidOver (chosen "store") lower.store
  sandbox := upper.sandbox.laidOver (chosen "sandbox") lower.sandbox
  logging := upper.logging.laidOver (chosen "logging") lower.logging

namespace StoreSettings

variable {left right : String → Bool} (upper lower : StoreSettings)

/-- Only the names of the group matter. -/
theorem laidOver_congr (same : ∀ name ∈ shape.fields, left name = right name) :
    upper.laidOver left lower = upper.laidOver right lower := by
  simp only [shape, List.mem_singleton, forall_eq] at same
  simp only [laidOver, same]

end StoreSettings

namespace Limits

variable {left right : String → Bool} (upper lower : Limits)

theorem laidOver_congr (same : ∀ name ∈ shape.fields, left name = right name) :
    upper.laidOver left lower = upper.laidOver right lower := by
  simp only [shape, List.mem_cons, List.not_mem_nil, or_false, forall_eq_or_imp, forall_eq] at same
  simp only [laidOver, same]

end Limits

namespace LoggingSettings

variable {left right : String → Bool} (upper lower : LoggingSettings)

theorem laidOver_congr (same : ∀ name ∈ shape.fields, left name = right name) :
    upper.laidOver left lower = upper.laidOver right lower := by
  simp only [shape, List.mem_cons, List.not_mem_nil, or_false, forall_eq_or_imp, forall_eq] at same
  simp only [laidOver, same]

end LoggingSettings

section

variable {State Value Fault : Type}

/-- How one member is read into settings: under a name of the group the setting is taken
from the upper place, if the value is one that `takes` allows, and all other names leave the
settings as they are. -/
structure SetsOver (set : State → String → Value → Except Fault State) (fields : List String)
    (takes : String → Value → Prop) (laidOver : (String → Bool) → State) : Prop where
  congr : ∀ left right : String → Bool, (∀ name ∈ fields, left name = right name) →
    laidOver left = laidOver right
  known : ∀ chosen, ∀ name ∈ fields, ∀ value, takes name value →
    set (laidOver chosen) name value = .ok (laidOver fun other => chosen other || other == name)
  unknown : ∀ state name value, name ∉ fields → set state name value = .ok state

namespace SetsOver

variable {set : State → String → Value → Except Fault State} {fields : List String}
  {takes : String → Value → Prop} {laidOver : (String → Bool) → State}

theorem set_eq (sets : SetsOver set fields takes laidOver) (chosen : String → Bool) {name : String}
    {value : Value} (taken : name ∈ fields → takes name value) :
    set (laidOver chosen) name value =
      .ok (laidOver fun other => chosen other || other == name) := by
  by_cases known : name ∈ fields
  · exact sets.known chosen name known value (taken known)
  · rw [sets.unknown _ _ _ known]
    refine congrArg Except.ok (sets.congr _ _ fun other inside => ?_)
    have different : other ≠ name := fun same => known (same ▸ inside)
    simp [different]

/-- Members that are read one after the other are all laid over what was there. -/
theorem foldlM_eq (sets : SetsOver set fields takes laidOver) {members : List (String × Value)}
    (taken : ∀ name value, (name, value) ∈ members → name ∈ fields → takes name value)
    (chosen : String → Bool) :
    members.foldlM (fun state (name, value) => set state name value) (laidOver chosen) =
      .ok (laidOver fun name => chosen name || (members.map (·.1)).contains name) := by
  induction members generalizing chosen with
  | nil => simp [pure, Except.pure]
  | cons member members ih =>
      obtain ⟨head, value⟩ := member
      have first := sets.set_eq chosen (taken head value List.mem_cons_self)
      have others := ih (fun name value inside => taken name value (.tail _ inside))
        (fun name => chosen name || name == head)
      rw [List.foldlM_cons]
      simp only [first, bind, Except.bind, others]
      simp [Bool.or_assoc]

end SetsOver

end

end PageInjection
