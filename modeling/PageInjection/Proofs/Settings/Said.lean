import PageInjection.Proofs.Settings.Source
import PageInjection.Proofs.Text.Case
import PageInjection.Proofs.Text.Numeral
import PageInjection.Settings.Document

/-!
# What documents and variables say

A document sets the settings that stand in its tables.  A variable sets the setting whose
group and name follow the lead in its own name, in letters of either case.  In both places
a value says one thing only, so that the layers that are made of them say what the sources
set.
-/

namespace PageInjection

open SettingLayer (Says Puts)

namespace Settings

/-- The groups and names of all settings. -/
def keys : List (String × String) :=
  StoreSettings.shape.fields.map ("store", ·) ++ Limits.shape.fields.map ("sandbox", ·) ++
    LoggingSettings.shape.fields.map ("logging", ·)

theorem mem_keys_of_value? {settings : Settings} {group name : String} {scalar : SettingScalar}
    (found : settings.value? group name = some scalar) : (group, name) ∈ keys := by
  simp only [keys, List.mem_append, List.mem_map, Prod.mk.injEq, exists_eq_right_right]
  unfold value? at found
  split at found
  · refine .inl (.inl ⟨?_, rfl⟩)
    exact Decidable.byContradiction fun unknown =>
      nomatch (StoreSettings.value?_eq_none _ unknown).symm.trans found
  · refine .inl (.inr ⟨?_, rfl⟩)
    exact Decidable.byContradiction fun unknown =>
      nomatch (Limits.value?_eq_none _ unknown).symm.trans found
  · refine .inr ⟨?_, rfl⟩
    exact Decidable.byContradiction fun unknown =>
      nomatch (LoggingSettings.value?_eq_none _ unknown).symm.trans found
  · exact nomatch found

theorem lowerName_of_mem_keys : ∀ key ∈ keys, lowerName key.2 = key.2 := by
  decide +kernel

theorem lowerName_of_mem_groups : ∀ group ∈ shape.fields, lowerName group = group := by
  decide +kernel

theorem ofText_of_mem_groups : ∀ group ∈ shape.fields, SettingKey.ofText group = ⟨group, []⟩ := by
  decide +kernel

/-- A key as a variable names it, with a point for the pair of lower lines. -/
def keyText (group name : String) : String :=
  String.ofList (Text.joinWith ['.'] (SettingLayer.pieces (group ++ "__" ++ name).toList))

theorem ofText_of_mem_keys : ∀ key ∈ keys,
    SettingKey.ofText (keyText key.1 key.2) = ⟨key.1, [.name key.2]⟩ := by
  decide +kernel

theorem ofText_builtIn :
    SettingKey.ofText "store.path" = ⟨"store", [.name "path"]⟩ ∧
      SettingKey.ofText "logging.level" = ⟨"logging", [.name "level"]⟩ ∧
      SettingKey.ofText "logging.output" = ⟨"logging", [.name "output"]⟩ := by
  decide +kernel

end Settings

namespace SettingSource

/-- The source of the values that hold when no other one says otherwise. -/
def builtIn : SettingSource :=
  ofKeys [("store", "path"), ("logging", "level"), ("logging", "output")] {} (by decide)

end SettingSource

namespace SettingLayer

theorem sets_of_ofText {key group name : String} {value : Setting}
    (path : SettingKey.ofText key = ⟨group, [.name name]⟩) : Sets (key, value) group name :=
  ⟨_, .single path, by simp⟩

theorem isSaid_of_ofText {key group name : String} {value : Setting} {scalar : SettingScalar}
    {said : SettingTable} (path : SettingKey.ofText key = ⟨group, [.name name]⟩)
    (single : value.scalar? = some scalar) (found : said group name = some scalar) :
    IsSaid said (key, value) :=
  ⟨_, _, .single path, List.forall_mem_singleton.mpr ⟨scalar, single, found⟩⟩

theorem Says.nil : SettingLayer.Says [] SettingSource.silent.value? where
  isSaid := by simp
  complete _ _ said := nomatch said

/-- The layer of built-in values says what the built-in source sets. -/
theorem Says.builtIn : SettingLayer.builtIn.Says SettingSource.builtIn.value? := by
  obtain ⟨path, level, output⟩ := Settings.ofText_builtIn
  refine ⟨?_, fun group name said => ?_⟩
  · rw [SettingLayer.builtIn, List.forall_mem_cons, List.forall_mem_cons, List.forall_mem_singleton]
    exact ⟨isSaid_of_ofText path rfl rfl, isSaid_of_ofText level rfl rfl,
      isSaid_of_ofText output rfl rfl⟩
  · simp only [SettingSource.isSome_value?, SettingSource.builtIn, SettingSource.ofKeys,
      List.contains_iff_mem,
      List.mem_cons, Prod.mk.injEq, List.not_mem_nil, or_false] at said
    rcases said with ⟨rfl, rfl⟩ | ⟨rfl, rfl⟩ | ⟨rfl, rfl⟩
    · exact ⟨_, .head _, sets_of_ofText path⟩
    · exact ⟨_, .tail _ (.head _), sets_of_ofText level⟩
    · exact ⟨_, .tail _ (.tail _ (.head _)), sets_of_ofText output⟩

end SettingLayer

/-- The built-in values are the defaults of their settings. -/
theorem Settings.isLayered_builtIn_cons {settings : Settings} {sources : List SettingSource}
    (layered : settings.IsLayered (.builtIn :: sources)) : settings.IsLayered sources := by
  obtain ⟨values, modules⟩ := layered
  refine ⟨fun group name => ?_, modules⟩
  rw [values, List.reverse_cons, List.findSome?_append, Option.or_assoc]
  congr 1
  cases sets : SettingSource.builtIn.sets group name with
  | false => simp [SettingSource.value?, sets]
  | true =>
      obtain ⟨scalar, found⟩ := Option.isSome_iff_exists.mp (SettingSource.builtIn.given _ _ sets)
      have same : ({} : Settings).value? group name = some scalar := found
      simp [SettingSource.value?, sets, same, found]

/-! ## Documents -/

/-- A text, a whole number or a truth value of a document. -/
def Toml.scalar? : Toml → Option SettingScalar
  | .text value => some (.text value)
  | .whole value => some (.whole value)
  | .flag value => some (.flag value)
  | _ => none

/-- A document sets what a source sets: its tables are groups of settings, and the values in
them are the ones that the source gives. -/
structure Toml.IsDocumentOf (members : Toml.Members) (source : SettingSource) : Prop where
  tables : ∀ member ∈ members, member.1 ∈ Settings.shape.fields ∧
    ∃ standing items, member.2 = .table standing items ∧ ∀ item ∈ items,
      ∃ scalar, item.2.scalar? = some scalar ∧ source.value? member.1 item.1 = some scalar
  complete : ∀ group name, source.sets group name = true →
    ∃ standing items, (group, .table standing items) ∈ members ∧ name ∈ items.map (·.1)

namespace Setting

theorem ofTomlMembers_eq_map (origin : String) (members : Toml.Members) :
    ofTomlMembers origin members =
      members.map fun member => (lowerName member.1, ofToml origin member.2) := by
  induction members with
  | nil => rfl
  | cons member members ih =>
      obtain ⟨name, value⟩ := member
      rw [ofTomlMembers, ih, List.map_cons]

theorem scalar?_ofToml {value : Toml} {scalar : SettingScalar}
    (single : value.scalar? = some scalar) (origin : String) :
    (ofToml origin value).scalar? = some scalar := by
  cases value <;> simp_all [Toml.scalar?, ofToml, ofScalar, scalar?]

end Setting

namespace Toml.IsDocumentOf

variable {members : Toml.Members} {source : SettingSource} {origin : String}

theorem lowerName_eq (isDocument : IsDocumentOf members source) {group : String}
    {standing : TableStanding} {items : Toml.Members} {item : String × Toml}
    (member : (group, .table standing items) ∈ members) (inside : item ∈ items) :
    lowerName item.1 = item.1 := by
  obtain ⟨_, _, _, same, values⟩ := isDocument.tables _ member
  cases same
  obtain ⟨scalar, _, found⟩ := values item inside
  exact Settings.lowerName_of_mem_keys (group, item.1)
    (Settings.mem_keys_of_value? (SettingSource.value?_eq_some found))

theorem puts (isDocument : IsDocumentOf members source) (origin : String) {group : String}
    {standing : TableStanding} {items : Toml.Members}
    (member : (group, .table standing items) ∈ members) :
    Puts (lowerName group, Setting.ofToml origin (.table standing items)) group
      (Setting.ofTomlMembers origin items) := by
  have known := (isDocument.tables _ member).1
  rw [Settings.lowerName_of_mem_groups group known, Setting.ofToml]
  exact .whole (Settings.ofText_of_mem_groups group known)

/-- The layer of a document says what the document sets, wherever it comes from. -/
theorem layer_isSaid (isDocument : IsDocumentOf members source) :
    SettingLayer.Says (Setting.ofTomlMembers origin members) source.value? where
  isSaid := by
    rw [Setting.ofTomlMembers_eq_map, List.forall_mem_map]
    rintro ⟨group, value⟩ member
    obtain ⟨_, standing, items, rfl, values⟩ := isDocument.tables _ member
    refine ⟨group, _, isDocument.puts origin member, ?_⟩
    rw [Setting.ofTomlMembers_eq_map, Setting.AreSaid, List.forall_mem_map]
    intro item inside
    obtain ⟨scalar, single, found⟩ := values item inside
    rw [isDocument.lowerName_eq member inside]
    exact ⟨scalar, Setting.scalar?_ofToml single origin, found⟩
  complete group name said := by
    rw [source.isSome_value?] at said
    obtain ⟨standing, items, member, named⟩ := isDocument.complete group name said
    obtain ⟨item, inside, rfl⟩ := List.mem_map.mp named
    refine ⟨_, ?_, _, isDocument.puts origin member, ?_⟩
    · rw [Setting.ofTomlMembers_eq_map]
      exact List.mem_map.mpr ⟨_, member, rfl⟩
    · rw [Setting.ofTomlMembers_eq_map, List.map_map]
      exact List.mem_map.mpr ⟨item, inside, isDocument.lowerName_eq member inside⟩

/-- A document with one table sets what stands in the table. -/
theorem of_table {group : String} {standing : TableStanding} {items : Toml.Members}
    {values : Settings} (known : group ∈ Settings.shape.fields)
    (given : ∀ key ∈ items.map fun item => (group, item.1),
      (values.value? key.1 key.2).isSome = true)
    (gives : ∀ item ∈ items, ∃ scalar, item.2.scalar? = some scalar ∧
      values.value? group item.1 = some scalar) :
    IsDocumentOf [(group, .table standing items)] (.ofKeys _ values given) where
  tables := by
    refine List.forall_mem_singleton.mpr ⟨known, standing, items, rfl, fun item inside => ?_⟩
    obtain ⟨scalar, single, found⟩ := gives item inside
    have sets : (SettingSource.ofKeys _ values given).sets group item.1 = true :=
      List.contains_iff_mem.mpr (List.mem_map_of_mem inside)
    exact ⟨scalar, single, (if_pos sets).trans found⟩
  complete other name sets := by
    obtain ⟨item, inside, same⟩ := List.mem_map.mp (List.contains_iff_mem.mp sets)
    obtain ⟨rfl, rfl⟩ := Prod.mk.inj same
    exact ⟨standing, items, List.mem_singleton.mpr rfl, List.mem_map_of_mem inside⟩

end Toml.IsDocumentOf

/-! ## Variables -/

/-- The name of a variable for a setting, in letters of either case. -/
def IsVariableOf (variableName group name : String) : Prop :=
  lowerName variableName = "codeweave__" ++ group ++ "__" ++ name

/-- The numerals of numbers of 63 bits, and the words for the two truth values. -/
inductive Spells : String → SettingScalar → Prop where
  | numeral {text : String} {value : Nat} : Text.IsNumeral text.toList →
      Text.numeralValue text.toList = value → value < 0x8000000000000000 →
      Spells text (.whole value)
  | yes : Spells "true" (.flag true)
  | no : Spells "false" (.flag false)

/-- The variables under the program's lead set what a source sets. -/
structure Environment.Overrides (environment : Environment) (source : SettingSource) : Prop where
  isOverride : ∀ entry ∈ environment.entries,
    (SettingLayer.keyOfVariable? entry.1).isSome = true →
      ∃ group name scalar, IsVariableOf entry.1 group name ∧ Spells entry.2 scalar ∧
        source.value? group name = some scalar
  complete : ∀ group name, source.sets group name = true →
    ∃ entry ∈ environment.entries, IsVariableOf entry.1 group name

theorem lowerName_of_isNumeral {text : String} (numeral : Text.IsNumeral text.toList) :
    lowerName text = text := by
  have plain : ∀ c ∈ text.toList, Text.IsPlainLower c := fun c member =>
    Text.isPlainLower_of_isDigit (numeral.2 c member)
  rw [lowerName, Text.toLower_eq_self plain, String.ofList_toList]

theorem scalarOfVariable_of_spells {text : String} {scalar : SettingScalar}
    (spells : Spells text scalar) : SettingLayer.scalarOfVariable text = scalar := by
  have wordless (word : String) (c : Char) (inside : c ∈ word.toList) (letter : ¬ c.isDigit = true)
      (numeral : Text.IsNumeral text.toList) : lowerName text ≠ word := by
    rw [lowerName_of_isNumeral numeral]
    rintro rfl
    exact letter (numeral.2 c inside)
  cases spells with
  | yes => 
      have lower : lowerName "true" = "true" := by decide +kernel
      simp [SettingLayer.scalarOfVariable, lower]
  | no =>
      have lower : lowerName "false" = "false" := by decide +kernel
      simp [SettingLayer.scalarOfVariable, lower]
  | numeral numeral total small =>
      have read := Text.readInteger_of_isNumeral numeral total (Nat.le_of_lt_succ small)
      simp only [SettingLayer.scalarOfVariable,
        if_neg (wordless "true" 't' (by decide) (by decide) numeral),
        if_neg (wordless "false" 'f' (by decide) (by decide) numeral)]
      rw [read]

theorem IsVariableOf.keyOfVariable?_eq {variableName group name : String}
    (isVariable : IsVariableOf variableName group name) :
    SettingLayer.keyOfVariable? variableName = some (Settings.keyText group name) := by
  have lower : Text.toLower variableName.toList =
      "codeweave__".toList ++ (group ++ "__" ++ name).toList := by
    rw [← String.toList_ofList (l := Text.toLower variableName.toList)]
    rw [IsVariableOf, lowerName] at isVariable
    rw [isVariable]
    simp
  rw [SettingLayer.keyOfVariable?, Text.dropLead?_eq_some_iff.mpr lower, Option.map_some,
    Settings.keyText]

theorem mem_ofEnvironment_iff {environment : Environment} {entry : String × Setting} :
    entry ∈ SettingLayer.ofEnvironment environment ↔
      ∃ variableName text key, (variableName, text) ∈ environment.entries ∧
        SettingLayer.keyOfVariable? variableName = some key ∧
        entry = (key, Setting.ofScalar "the environment" (SettingLayer.scalarOfVariable text)) := by
  simp only [SettingLayer.ofEnvironment, List.mem_filterMap, Option.map_eq_some_iff, Prod.exists]
  constructor
  · rintro ⟨variableName, text, inside, key, keyed, rfl⟩
    exact ⟨variableName, text, key, inside, keyed, rfl⟩
  · rintro ⟨variableName, text, key, inside, keyed, rfl⟩
    exact ⟨variableName, text, inside, key, keyed, rfl⟩

theorem ofText_keyText {group name : String} {scalar : SettingScalar} {source : SettingSource}
    (found : source.value? group name = some scalar) :
    SettingKey.ofText (Settings.keyText group name) = ⟨group, [.name name]⟩ :=
  Settings.ofText_of_mem_keys (group, name)
    (Settings.mem_keys_of_value? (SettingSource.value?_eq_some found))

namespace Environment.Overrides

variable {environment : Environment} {source : SettingSource}

theorem isSaid (overrides : environment.Overrides source) {variableName text key : String}
    (inside : (variableName, text) ∈ environment.entries)
    (keyed : SettingLayer.keyOfVariable? variableName = some key) :
    SettingLayer.IsSaid source.value?
      (key, Setting.ofScalar "the environment" (SettingLayer.scalarOfVariable text)) := by
  obtain ⟨group, name, scalar, isVariable, spells, found⟩ :=
    overrides.isOverride (variableName, text) inside (Option.isSome_of_eq_some keyed)
  have same : key = Settings.keyText group name :=
    Option.some.inj (keyed.symm.trans isVariable.keyOfVariable?_eq)
  rw [scalarOfVariable_of_spells spells, same]
  exact SettingLayer.isSaid_of_ofText (ofText_keyText found) rfl found

/-- The layer of the variables says what the variables set. -/
theorem layer_isSaid (overrides : environment.Overrides source) :
    (SettingLayer.ofEnvironment environment).Says source.value? where
  isSaid entry member := by
    obtain ⟨variableName, text, key, inside, keyed, rfl⟩ := mem_ofEnvironment_iff.mp member
    exact overrides.isSaid inside keyed
  complete group name said := by
    obtain ⟨scalar, found⟩ := Option.isSome_iff_exists.mp said
    rw [source.isSome_value?] at said
    obtain ⟨⟨variableName, text⟩, inside, isVariable⟩ := overrides.complete group name said
    exact ⟨_, mem_ofEnvironment_iff.mpr
        ⟨variableName, text, _, inside, isVariable.keyOfVariable?_eq, rfl⟩,
      SettingLayer.sets_of_ofText (ofText_keyText found)⟩

end Environment.Overrides

end PageInjection
