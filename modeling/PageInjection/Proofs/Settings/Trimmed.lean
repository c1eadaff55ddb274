import PageInjection.Proofs.Entries
import PageInjection.Proofs.Json.RoundTrip
import PageInjection.Proofs.Settings.Over

/-!
# Settings with fields left out

Settings are written as a JSON object of objects.  When sections or single fields are left
out of it, and names that mean nothing are added, reading gives the settings back, with
the defaults in place of what was left out.
-/

namespace PageInjection

namespace Json

/-- An object that has the members of another under the kept names and no others that the
other one knows.  How a member compares with the old one is a matter of its name. -/
def IsTrimmed (part : String → Json → Json → Prop) (kept : String → Bool)
    (whole value : Json) : Prop :=
  ∃ members, value = .object members ∧
    (∀ name new, (name, new) ∈ members → ∀ old, whole.member? name = some old →
      part name old new) ∧
    ∀ name, (whole.member? name).isSome = true → (members.map (·.1)).contains name = kept name

/-- The same value, whatever the name. -/
def IsSame (_ : String) (old new : Json) : Prop := new = old

theorem isTrimmed_object {part : String → Json → Json → Prop} {kept : String → Bool}
    {full members : List (String × Json)}
    (parts : ∀ member ∈ members, ∀ old, full.lookup member.1 = some old →
      part member.1 old member.2)
    (names : ∀ entry ∈ full, (members.map (·.1)).contains entry.1 = kept entry.1) :
    IsTrimmed part kept (.object full) (.object members) := by
  refine ⟨members, rfl, fun name new member => parts (name, new) member, fun name known => ?_⟩
  obtain ⟨entry, inside, rfl⟩ := List.mem_map.mp (isSome_lookup_iff.mp known)
  exact names entry inside

/-- Nothing is trimmed off where everything is kept. -/
theorem isTrimmed_self {part : String → Json → Json → Prop} {members : List (String × Json)}
    (distinct : (members.map (·.1)).Nodup)
    (same : ∀ member ∈ members, part member.1 member.2 member.2) :
    IsTrimmed part (fun _ => true) (.object members) (.object members) := by
  refine isTrimmed_object (fun member inside old found => ?_) fun entry inside => ?_
  · obtain rfl := Option.some.inj (((mem_iff_lookup_eq_some distinct).mp inside).symm.trans found)
    exact same member inside
  · exact List.contains_iff_mem.mpr (List.mem_map_of_mem inside)

/-- Which values a name of an object may have for a part of the object to be kept. -/
def Keeps (part : String → Json → Json → Prop) (whole : Json) (name : String) (value : Json) :
    Prop :=
  ∀ old, whole.member? name = some old → part name old value

/-- Where every field has a default, a trimmed object is read as the kept fields laid over the
defaults. -/
theorem RecordShape.decode_of_isTrimmed {α : Type} {shape : RecordShape α α}
    {part : String → Json → Json → Prop} {kept : String → Bool} {whole value : Json}
    {laidOver : (String → Bool) → α}
    (sets : SetsOver shape.set shape.fields (Keeps part whole) laidOver)
    (draft : shape.draft = laidOver fun _ => false) (finish : shape.finish = .ok)
    (knows : ∀ name ∈ shape.fields, (whole.member? name).isSome = true)
    (trimmed : IsTrimmed part kept whole value) : shape.decode value = .ok (laidOver kept) := by
  obtain ⟨members, rfl, parts, names⟩ := trimmed
  have taken : ∀ name new, (name, new) ∈ members → name ∈ shape.fields →
      Keeps part whole name new :=
    fun name new inside _ => parts name new inside
  have folded := sets.foldlM_eq taken fun _ => false
  have same : (laidOver fun name => false || (members.map (·.1)).contains name) = laidOver kept :=
    sets.congr _ _ fun name known => by rw [Bool.false_or, names name (knows name known)]
  simp only [decode, draft, folded, finish, same, bind, Except.bind]

end Json

namespace StoreSettings

theorem setsOver (upper lower : StoreSettings) :
    SetsOver shape.set shape.fields (Json.Keeps Json.IsSame upper.toJson)
      (upper.laidOver · lower) where
  congr _ _ := laidOver_congr upper lower
  known chosen name known value keeps := by
    obtain rfl := List.mem_singleton.mp known
    obtain rfl := keeps _ rfl
    simp [shape, laidOver, Json.toText, bind, Except.bind, pure, Except.pure]
  unknown settings name value unknown := by
    simp only [shape, List.mem_singleton] at unknown
    simp [shape]

end StoreSettings

namespace Limits

theorem setsOver (upper lower : Limits) :
    SetsOver shape.set shape.fields (Json.Keeps Json.IsSame upper.toJson)
      (upper.laidOver · lower) where
  congr _ _ := laidOver_congr upper lower
  known chosen name known value keeps := by
    simp only [shape, List.mem_cons, List.not_mem_nil, or_false] at known
    rcases known with rfl | rfl | rfl | rfl | rfl | rfl | rfl <;>
      simp [Json.Keeps, Json.IsSame, toJson, Json.member?, List.lookup_cons] at keeps <;>
      simp [keeps, shape, laidOver, Json.toUInt64_toNat, bind, Except.bind, pure, Except.pure]
  unknown settings name value unknown := by
    simp only [shape, List.mem_cons, List.not_mem_nil, or_false, not_or] at unknown
    simp [shape, unknown]

end Limits

namespace LoggingSettings

/-- The same settings; the levels of modules may come in another order. -/
def IsAlike (settings other : LoggingSettings) : Prop :=
  ∃ modules, modules.Perm other.modules ∧ settings = { other with modules }

/-- The levels of modules are read in the order in which the object holds them. -/
theorem setsOver {settings : LoggingSettings} {read : List (String × String)}
    (back : Json.toTextMap (Json.ofMembers
      (settings.modules.map fun (name, level) => (name, .text level))) = .ok read)
    (lower : LoggingSettings) :
    SetsOver shape.set shape.fields (Json.Keeps Json.IsSame settings.toJson)
      ({ settings with modules := read }.laidOver · lower) where
  congr _ _ := laidOver_congr _ lower
  known chosen name known value keeps := by
    simp only [shape, List.mem_cons, List.not_mem_nil, or_false] at known
    rcases known with rfl | rfl | rfl | rfl | rfl | rfl | rfl <;>
      simp [Json.Keeps, Json.IsSame, toJson, Json.member?, List.lookup_cons] at keeps <;>
      simp [keeps, back, shape, laidOver, Json.toBool, Json.toText, Json.toOption_toText, bind,
        Except.bind, pure, Except.pure]
  unknown settings name value unknown := by
    simp only [shape, List.mem_cons, List.not_mem_nil, or_false, not_or] at unknown
    simp [shape, unknown]

end LoggingSettings

section

variable {kept : String → Bool} {value : Json}

theorem StoreSettings.ofJson_of_isTrimmed {settings : StoreSettings}
    (trimmed : Json.IsTrimmed Json.IsSame kept settings.toJson value) :
    ofJson value = .ok (settings.laidOver kept {}) :=
  Json.RecordShape.decode_of_isTrimmed (settings.setsOver {}) missing_eq_default rfl
    (by simp [shape, toJson, Json.member?]) trimmed

theorem Limits.ofJson_of_isTrimmed {limits : Limits}
    (trimmed : Json.IsTrimmed Json.IsSame kept limits.toJson value) :
    ofJson value = .ok (limits.laidOver kept {}) :=
  Json.RecordShape.decode_of_isTrimmed (limits.setsOver {}) missing_eq_default rfl
    (by simp [shape, toJson, Json.member?, List.lookup_cons]) trimmed

theorem LoggingSettings.ofJson_of_isTrimmed {settings : LoggingSettings}
    {read : List (String × String)}
    (back : Json.toTextMap (Json.ofMembers
      (settings.modules.map fun (name, level) => (name, .text level))) = .ok read)
    (trimmed : Json.IsTrimmed Json.IsSame kept settings.toJson value) :
    ofJson value = .ok ({ settings with modules := read }.laidOver kept {}) :=
  Json.RecordShape.decode_of_isTrimmed (LoggingSettings.setsOver back {}) missing_eq_default rfl
    (by simp [shape, toJson, Json.member?, List.lookup_cons]) trimmed

end

theorem LoggingSettings.isAlike_over {settings : LoggingSettings}
    {read : List (String × String)} (permuted : read.Perm settings.modules)
    (chosen : String → Bool) (lower : LoggingSettings) :
    IsAlike ({ settings with modules := read }.laidOver chosen lower)
      (settings.laidOver chosen lower) := by
  refine ⟨if chosen "modules" then read else lower.modules, ?_, rfl⟩
  cases found : chosen "modules" with
  | false => simp [laidOver, found]
  | true => simpa [laidOver, found] using permuted

namespace Settings

/-- The same settings; the levels of modules may come in another order. -/
def IsAlike (settings other : Settings) : Prop :=
  ∃ logging, logging.IsAlike other.logging ∧ settings = { other with logging }

/-- A section is kept when its name is, and then with the fields that are kept in it. -/
theorem setsOver {settings : Settings} (fields : String → String → Bool)
    {read : List (String × String)}
    (back : Json.toTextMap (Json.ofMembers
      (settings.logging.modules.map fun (name, level) => (name, .text level))) = .ok read) :
    SetsOver shape.set shape.fields
      (Json.Keeps (fun group => Json.IsTrimmed Json.IsSame (fields group)) settings.toJson)
      (fun chosen => { settings with logging := { settings.logging with modules := read } }.laidOver
        (fun group name => chosen group && fields group name) {}) where
  congr left right same := by
    simp only [shape, List.mem_cons, List.not_mem_nil, or_false, forall_eq_or_imp,
      forall_eq] at same
    simp only [laidOver, same]
  known chosen name known value keeps := by
    simp only [shape, List.mem_cons, List.not_mem_nil, or_false] at known
    rcases known with rfl | rfl | rfl
    · have stored := StoreSettings.ofJson_of_isTrimmed (keeps settings.store.toJson rfl)
      simp [shape, laidOver, stored, bind, Except.bind, pure, Except.pure]
    · have limited := Limits.ofJson_of_isTrimmed (keeps settings.sandbox.toJson rfl)
      simp [shape, laidOver, limited, bind, Except.bind, pure, Except.pure]
    · have logged :=
        LoggingSettings.ofJson_of_isTrimmed back (keeps settings.logging.toJson rfl)
      simp [shape, laidOver, logged, bind, Except.bind, pure, Except.pure]
  unknown settings name value unknown := by
    simp only [shape, List.mem_cons, List.not_mem_nil, or_false, not_or] at unknown
    simp [shape, unknown]

theorem isTrimmed_toJson (settings : Settings) :
    Json.IsTrimmed (fun _ => Json.IsTrimmed Json.IsSame fun _ => true) (fun _ => true)
      settings.toJson settings.toJson := by
  refine Json.isTrimmed_self (by simp) ?_
  simp only [List.mem_cons, List.not_mem_nil, or_false]
  rintro member (rfl | rfl | rfl) <;> exact Json.isTrimmed_self (by simp) fun _ _ => rfl

theorem exists_ofJson_of_isTrimmed {settings : Settings} {groups : String → Bool}
    {fields : String → String → Bool} {value : Json}
    (distinct : (settings.logging.modules.map (·.1)).Nodup)
    (trimmed : Json.IsTrimmed (fun group => Json.IsTrimmed Json.IsSame (fields group)) groups
      settings.toJson value) :
    ∃ read, ofJson value = .ok read ∧
      read.IsAlike
        (settings.laidOver (fun group name => groups group && fields group name) {}) := by
  obtain ⟨modules, back, permuted⟩ := Json.exists_toTextMap_ofMembers distinct
  have decoded := Json.RecordShape.decode_of_isTrimmed (setsOver fields back) missing_eq_default
    rfl (by simp [shape, toJson, Json.member?, List.lookup_cons]) trimmed
  exact ⟨_, decoded, _, LoggingSettings.isAlike_over permuted _ _, rfl⟩

end Settings

/-- Settings written as JSON are read back when any sections and fields are left out and any
names that mean nothing are added: what was left out takes its default, and all else is as
it was.  With nothing left out this is the round trip.  The limits of scripts and the
settings of the log are read in the same way on their own. -/
theorem trimmed_settings_take_defaults (settings : Settings)
    (distinct : (settings.logging.modules.map (·.1)).Nodup)
    (groups : String → Bool) (fields : String → String → Bool) (kept : String → Bool) :
    (∀ value, Json.IsTrimmed (fun group => Json.IsTrimmed Json.IsSame (fields group)) groups
        settings.toJson value →
      ∃ read, Settings.ofJson value = .ok read ∧
        read.IsAlike (settings.laidOver (fun group name => groups group && fields group name) {})) ∧
    (∃ read, Settings.ofJson settings.toJson = .ok read ∧ read.IsAlike settings) ∧
    (∀ value, Json.IsTrimmed Json.IsSame kept settings.sandbox.toJson value →
      Limits.ofJson value = .ok (settings.sandbox.laidOver kept {})) ∧
    ∀ value, Json.IsTrimmed Json.IsSame kept settings.logging.toJson value →
      ∃ read, LoggingSettings.ofJson value = .ok read ∧
        read.IsAlike (settings.logging.laidOver kept {}) := by
  refine ⟨fun value => Settings.exists_ofJson_of_isTrimmed distinct, ?_,
    fun value => Limits.ofJson_of_isTrimmed, fun value trimmed => ?_⟩
  · exact Settings.exists_ofJson_of_isTrimmed distinct settings.isTrimmed_toJson
  · obtain ⟨modules, back, permuted⟩ := Json.exists_toTextMap_ofMembers distinct
    exact ⟨_, LoggingSettings.ofJson_of_isTrimmed back trimmed,
      LoggingSettings.isAlike_over permuted kept {}⟩

/-- Of settings with the greatest limit and two modules, the store, all other limits and most
of the log are left out, and names that mean nothing are added on both levels. -/
theorem trimmed_settings_keep_limit_and_modules :
    let settings : Settings :=
      { store := ⟨"/srv/store"⟩
        sandbox := { operations := 18446744073709551615, milliseconds := 5 }
        logging := { level := "debug", modules := [("store", "off"), ("rules", "trace")] } }
    let groups : String → Bool := (· != "store")
    let fields : String → String → Bool := fun _ name =>
      ["max_operations", "file", "modules"].contains name
    let value : Json := .object [
      ("colour", .null),
      ("sandbox", .object [("max_operations", .integer 18446744073709551615)]),
      ("logging", .object [
        ("modules", .object [("rules", .text "trace"), ("store", .text "off")]),
        ("path", .integer 3), ("file", .null)])]
    (settings.logging.modules.map (·.1)).Nodup ∧
      Json.IsTrimmed (fun group => Json.IsTrimmed Json.IsSame (fields group)) groups
        settings.toJson value ∧
      ∃ read, Settings.ofJson value = .ok read ∧
        read.IsAlike { sandbox := { operations := 18446744073709551615 }, logging :=
          { modules := [("store", "off"), ("rules", "trace")] } } := by
  intro settings groups fields value
  have distinct : (settings.logging.modules.map (·.1)).Nodup := by decide
  have trimmed : Json.IsTrimmed (fun group => Json.IsTrimmed Json.IsSame (fields group)) groups
      settings.toJson value := by
    have sorted : Json.ofMembers [("store", .text "off"), ("rules", .text "trace")] =
        .object [("rules", .text "trace"), ("store", .text "off")] := by rfl
    refine Json.isTrimmed_object ?_ (by simp [groups])
    simp only [List.forall_mem_cons, List.lookup_cons]
    refine ⟨by simp, ?_, ?_, by simp⟩
    · rintro old ⟨⟩
      exact Json.isTrimmed_object (by simp [List.lookup_cons, Json.IsSame, settings])
        (by simp [fields])
    · rintro old ⟨⟩
      exact Json.isTrimmed_object
        (by simp [List.lookup_cons, Json.IsSame, settings, Json.ofText?, sorted])
        (by simp [fields])
  exact ⟨distinct, trimmed,
    (trimmed_settings_take_defaults settings distinct groups fields groups).1 value trimmed⟩

end PageInjection
