import PageInjection.Proofs.Settings.Standing

/-!
# The folder of the store, named by a variable

A variable gives a truth value, a number, or a text, whatever it is about.  The name of a
folder is a text; where the variable gives something else, that is written out again.  So a
folder gets the name that the variable has exactly if what the variable reads as is written
the way it stands there.  A name with a slash in it reads as nothing but a text.
-/

namespace PageInjection

/-! ## Texts that read as something else -/

namespace Decimal

/-- A character of decimals, their exponents and the names that stand for some. -/
def IsNumberChar (c : Char) : Prop :=
  c.isAlphanum = true ∨ c = '.' ∨ c = '+' ∨ c = '-'

theorem isNumberChar_of_isDigit {c : Char} (digit : c.isDigit = true) : IsNumberChar c :=
  .inl (by simp [Char.isAlphanum, digit])

/-- What is left behind leading digits has all characters that are no digits. -/
theorem isDigit_or_mem_loop {c : Char} {source : List Char} (member : c ∈ source)
    (done : List Char) :
    c.isDigit = true ∨ c ∈ (List.span.loop Char.isDigit source done).2 := by
  induction source generalizing done with
  | nil => exact nomatch member
  | cons d rest ih =>
      have step : List.span.loop Char.isDigit (d :: rest) done =
          bif d.isDigit then List.span.loop Char.isDigit rest (d :: done)
          else (done.reverse, d :: rest) := by
        change (match d.isDigit with | true => _ | false => _) = _
        cases d.isDigit <;> rfl
      cases digit : d.isDigit with
      | false => exact .inr (by rwa [step, digit])
      | true =>
          rcases List.mem_cons.mp member with rfl | later
          · exact .inl digit
          · rw [step, digit]
            exact ih later (d :: done)

theorem isNumberChar_of_takeDigits {source : List Char}
    (remaining : ∀ c ∈ (takeDigits source).2, IsNumberChar c) : ∀ c ∈ source, IsNumberChar c := by
  intro c member
  rcases isDigit_or_mem_loop member [] with digit | later
  · exact isNumberChar_of_isDigit digit
  · exact remaining c later

theorem isNumberChar_of_readPower? {text : List Char} {power : Int}
    (read : readPower? text = some power) : ∀ c ∈ text, IsNumberChar c := by
  have digitsOf {sign : Int} {digits : List Char}
      (read : (if digits.isEmpty || !digits.all Char.isDigit then none
        else some (sign * digitsValue digits)) = some power) : ∀ c ∈ digits, IsNumberChar c := by
    intro c member
    split at read
    · exact nomatch read
    · rename_i proper
      simp only [Bool.or_eq_true, List.isEmpty_iff, Bool.not_eq_true', not_or, Bool.not_eq_false,
        List.all_eq_true] at proper
      exact isNumberChar_of_isDigit (proper.2 c member)
  cases text with
  | nil => simp
  | cons mark rest =>
      simp only [readPower?] at read
      split at read
      · exact nomatch read
      · rename_i marked
        refine List.forall_mem_cons.mpr ⟨?_, ?_⟩
        · have known : mark = 'e' ∨ mark = 'E' := by
            simpa [Decidable.or_iff_not_imp_left] using marked
          rcases known with rfl | rfl
          · exact .inl (by decide)
          · exact .inl (by decide)
        · split at read
          · exact List.forall_mem_cons.mpr ⟨.inr (.inr (.inr rfl)), digitsOf read⟩
          · exact List.forall_mem_cons.mpr ⟨.inr (.inr (.inl rfl)), digitsOf read⟩
          · exact digitsOf read

/-- The names of decimals have letters only. -/
theorem isNumberChar_of_word {text : List Char} {word : String}
    (letters : word.toList.all Char.isAlpha = true)
    (same : (String.ofList (text.map Char.toLower) == word) = true) :
    ∀ c ∈ text, IsNumberChar c := by
  intro c member
  have lowered : c.toLower ∈ word.toList := by
    rw [← eq_of_beq same, String.toList_ofList]
    exact List.mem_map_of_mem member
  refine .inl ?_
  cases alpha : c.isAlpha with
  | true => simp [Char.isAlphanum, alpha]
  | false =>
      have kept := (Text.toLower_eq_iff alpha).mpr rfl
      exact absurd (kept ▸ List.all_eq_true.mp letters _ lowered) (by simp [alpha])

theorem isNumberChar_of_readSize? {text : List Char} {value : Float}
    (read : readSize? text = some value) : ∀ c ∈ text, IsNumberChar c := by
  have powerOf {whole fraction rest : List Char}
      (read : (if whole.isEmpty && fraction.isEmpty then none
        else (readPower? rest).map fun power =>
          nearest (digitsValue (whole ++ fraction)) (power - fraction.length)) = some value) :
      ∀ c ∈ rest, IsNumberChar c := by
    split at read
    · exact nomatch read
    · obtain ⟨power, found, _⟩ := Option.map_eq_some_iff.mp read
      exact isNumberChar_of_readPower? found
  rcases taken : takeDigits text with ⟨whole, rest⟩
  rw [readSize?, taken] at read
  simp only at read
  split at read
  · rename_i named
    rcases Bool.or_eq_true _ _ |>.mp named with same | same
    · exact isNumberChar_of_word (by decide) same
    · exact isNumberChar_of_word (by decide) same
  split at read
  · rename_i same
    exact isNumberChar_of_word (by decide) same
  · refine isNumberChar_of_takeDigits ?_
    rw [taken]
    split at read
    · exact List.forall_mem_cons.mpr ⟨.inr (.inl rfl), isNumberChar_of_takeDigits (powerOf read)⟩
    · exact powerOf read

/-- A text that reads as a decimal has no other characters. -/
theorem isNumberChar_of_read? {text : List Char} {value : Float}
    (read : read? text = some value) : ∀ c ∈ text, IsNumberChar c := by
  unfold read? at read
  split at read
  · obtain ⟨size, found, _⟩ := Option.map_eq_some_iff.mp read
    exact List.forall_mem_cons.mpr ⟨.inr (.inr (.inr rfl)), isNumberChar_of_readSize? found⟩
  · exact List.forall_mem_cons.mpr ⟨.inr (.inr (.inl rfl)), isNumberChar_of_readSize? read⟩
  · exact isNumberChar_of_readSize? read

end Decimal

/-- A text is plainly written: the truth value or the number that it reads as, if any, is
written in the same way. -/
structure IsPlain (text : String) : Prop where
  word : ∀ word, word = "true" ∨ word = "false" → lowerName text = word → text = word
  whole : ∀ number, Text.readInteger 0x7FFFFFFFFFFFFFFF text.toList = .ok number →
    text = toString number
  real : (∀ number, Text.readInteger 0x7FFFFFFFFFFFFFFF text.toList ≠ .ok number) →
    ∀ number, Decimal.read? text.toList = some number → text = Decimal.plainText number

/-- An ASCII character that stands in no number and in no word for one. -/
def IsMark (c : Char) : Prop :=
  c.toNat < 0x80 ∧ ¬ Decimal.IsNumberChar c

instance (c : Char) : Decidable (IsMark c) :=
  inferInstanceAs (Decidable (_ ∧ ¬ (_ ∨ _ ∨ _ ∨ _)))

theorem isPlain_of_mark {text : String} {c : Char} (member : c ∈ text.toList) (mark : IsMark c) :
    IsPlain text := by
  have letterless : c.isAlpha = false := by
    have other := mark.2
    simp only [Decimal.IsNumberChar, Char.isAlphanum, not_or, Bool.or_eq_true] at other
    simpa using other.1.1
  have plain : Text.IsPlainLower c := ⟨mark.1, (Text.toLower_eq_iff letterless).mpr rfl⟩
  have lowered : c ∈ (lowerName text).toList := by
    rw [lowerName, String.toList_ofList]
    exact Text.mem_toLower member plain
  refine ⟨fun word isWord same => ?_, fun number read => ?_, fun _ number read => ?_⟩
  · rw [same] at lowered
    have letters : word.toList.all Char.isAlpha = true := by
      rcases isWord with rfl | rfl <;> decide
    exact absurd (List.all_eq_true.mp letters c lowered) (by simp [letterless])
  · rcases Text.isDigit_or_sign_of_readInteger read c member with digit | plus | minus
    · exact absurd (Decimal.isNumberChar_of_isDigit digit) mark.2
    · exact absurd (.inr (.inr (.inl plus))) mark.2
    · exact absurd (.inr (.inr (.inr minus))) mark.2
  · exact absurd (Decimal.isNumberChar_of_read? read c member) mark.2

namespace IsPlain

variable {text : String}

theorem iff_of_word {word : String} (isWord : word = "true" ∨ word = "false")
    (lower : lowerName text = word) : IsPlain text ↔ word = text := by
  have unread : Text.readInteger 0x7FFFFFFFFFFFFFFF word.toList = .error .notADigit := by
    rcases isWord with rfl | rfl <;> rfl
  have unreal : Decimal.read? word.toList = none := by
    rcases isWord with rfl | rfl <;> rfl
  constructor
  · exact fun plain => (plain.word word isWord lower).symm
  · rintro rfl
    refine ⟨fun _ _ same => lower.symm.trans same, fun _ read => ?_, fun _ _ read => ?_⟩
    · exact nomatch unread.symm.trans read
    · exact nomatch unreal.symm.trans read

variable (wordless : ∀ word, word = "true" ∨ word = "false" → lowerName text ≠ word)
include wordless

theorem iff_of_whole {number : Int}
    (whole : Text.readInteger 0x7FFFFFFFFFFFFFFF text.toList = .ok number) :
    IsPlain text ↔ toString number = text := by
  constructor
  · exact fun plain => (plain.whole number whole).symm
  · refine fun same => ⟨fun word isWord lower => ?_, fun other read => ?_, fun unread => ?_⟩
    · exact absurd lower (wordless word isWord)
    · rw [← Except.ok.inj (whole.symm.trans read), same]
    · exact absurd whole (unread number)

variable (unread : ∀ number, Text.readInteger 0x7FFFFFFFFFFFFFFF text.toList ≠ .ok number)
include unread

theorem iff_of_real {number : Float} (real : Decimal.read? text.toList = some number) :
    IsPlain text ↔ Decimal.plainText number = text := by
  constructor
  · exact fun plain => (plain.real unread number real).symm
  · refine fun same => ⟨fun word isWord lower => ?_, fun other read => ?_, fun _ other read => ?_⟩
    · exact absurd lower (wordless word isWord)
    · exact absurd read (unread other)
    · rw [← Option.some.inj (real.symm.trans read), same]

theorem of_unread (unreal : Decimal.read? text.toList = none) : IsPlain text where
  word word isWord lower := absurd lower (wordless word isWord)
  whole other read := absurd read (unread other)
  real _ _ read := nomatch unreal.symm.trans read

end IsPlain

/-- A variable gives something that can be written out, the variable's own text exactly if
that is plainly written. -/
theorem exists_toText_scalarOfVariable (origin : Option String) (text : String) :
    ∃ written, Setting.toText (.scalar origin (SettingLayer.scalarOfVariable text)) = .ok written ∧
      (written = text ↔ IsPlain text) := by
  unfold SettingLayer.scalarOfVariable
  by_cases yes : lowerName text = "true"
  · exact ⟨"true", by simp [yes, Setting.toText], (IsPlain.iff_of_word (.inl rfl) yes).symm⟩
  by_cases no : lowerName text = "false"
  · exact ⟨"false", by simp [no, Setting.toText], (IsPlain.iff_of_word (.inr rfl) no).symm⟩
  have wordless : ∀ word, word = "true" ∨ word = "false" → lowerName text ≠ word := by
    rintro word (rfl | rfl)
    · exact yes
    · exact no
  simp only [if_neg yes, if_neg no]
  cases whole : Text.readInteger 0x7FFFFFFFFFFFFFFF text.toList with
  | ok number => exact ⟨toString number, rfl, (IsPlain.iff_of_whole wordless whole).symm⟩
  | error fault =>
      have unread (number : Int) :
          Text.readInteger 0x7FFFFFFFFFFFFFFF text.toList ≠ .ok number := by simp [whole]
      cases real : Decimal.read? text.toList with
      | some number =>
          exact ⟨Decimal.plainText number, rfl, (IsPlain.iff_of_real wordless unread real).symm⟩
      | none =>
          exact ⟨text, rfl, iff_of_true rfl (IsPlain.of_unread wordless unread real)⟩

/-! ## Settings without files -/

/-- Nothing but the variable for the folder of the store sets anything. -/
def Environment.OnlyNames (environment : Environment) (folder : String) : Prop :=
  (environment.entries.filter fun entry => (SettingLayer.keyOfVariable? entry.1).isSome) =
    [("CODEWEAVE__STORE__PATH", folder)]

theorem Environment.OnlyNames.ofEnvironment_eq {environment : Environment} {folder : String}
    (onlyNames : environment.OnlyNames folder) :
    SettingLayer.ofEnvironment environment =
      [("store.path",
        .scalar (some "the environment") (SettingLayer.scalarOfVariable folder))] := by
  have key : SettingLayer.keyOfVariable? "CODEWEAVE__STORE__PATH" = some "store.path" := by
    decide +kernel
  have same : SettingLayer.ofEnvironment environment = SettingLayer.ofEnvironment
      ⟨environment.entries.filter fun entry => (SettingLayer.keyOfVariable? entry.1).isSome⟩ := by
    simp only [SettingLayer.ofEnvironment, List.filterMap_filter]
    refine congrArg (List.filterMap · environment.entries) (funext fun entry => ?_)
    cases SettingLayer.keyOfVariable? entry.1 <;> rfl
  rw [same, onlyNames, SettingLayer.ofEnvironment]
  simp [key, Setting.ofScalar]

namespace Settings

/-- No file of settings stands where one is looked for. -/
structure HasNoFiles (host : Host) (root : String) : Prop where
  globalFile : ∀ path, globalPath? host.environment = some path →
    ∃ fault, host.disk.look host.current path = .error fault
  workspaceFiles : ∀ path ∈ workspacePaths host.environment root, host.file? path = none

theorem HasNoFiles.standingLayers_eq {host : Host} {root : String}
    (noFiles : HasNoFiles host root) :
    standingLayers Host.surroundings root host = (.ok [], host) := by
  have globalSource : globalSource? Host.surroundings host = (none, host) := by
    cases globalPath : globalPath? host.environment with
    | none => exact globalSource?_of_none globalPath
    | some path =>
        obtain ⟨fault, missing⟩ := noFiles.globalFile path globalPath
        exact globalSource?_of_error globalPath missing
  have absent : (none : Option String).toList ++ (workspacePaths host.environment root).filter
      (fun path => (host.file? path).isSome) = ([] : List StandingFile).map (·.path) :=
    List.filter_eq_nil_iff.mpr fun path member => by simp [noFiles.workspaceFiles path member]
  exact Settings.standingLayers_eq globalSource absent (by simp)

theorem ofLayers_storePath {origin : Option String} {scalar : SettingScalar} {folder : String}
    (written : Setting.toText (.scalar origin scalar) = .ok folder) :
    ofLayers [SettingLayer.builtIn, [("store.path", .scalar origin scalar)]] =
      .ok { store := { path := folder } } := by
  obtain ⟨path, level, output⟩ := ofText_builtIn
  have merged : SettingLayer.merge [SettingLayer.builtIn, [("store.path", .scalar origin scalar)]] =
      .table [("store", .table [("path", .scalar origin scalar)]),
        ("logging", .table [("level", .scalar none (.text "info")),
          ("output", .scalar none (.text "stderr"))])] := by
    simp [SettingLayer.merge, SettingLayer.onTop, SettingLayer.builtIn, path, level, output,
      Setting.alter, SettingKey.lay, Setting.onTop, Setting.members, Setting.nothing]
  have store : StoreSettings.group.take (.table [("path", .scalar origin scalar)]) =
      .ok { path := folder } := by
    simp [Setting.Group.take, Setting.Group.takeMembers, StoreSettings.group, written, bind,
      Except.bind, pure, Except.pure]
  have logging : LoggingSettings.group.take (.table [("level", .scalar none (.text "info")),
      ("output", .scalar none (.text "stderr"))]) = .ok {} := by
    rfl
  have taken : group.take (.table [("store", .table [("path", .scalar origin scalar)]),
      ("logging", .table [("level", .scalar none (.text "info")),
        ("output", .scalar none (.text "stderr"))])]) = .ok { store := { path := folder } } := by
    rw [Setting.Group.take, Setting.Group.takeMembers]
    simp [group, missing_eq_default, store, logging, bind, Except.bind, pure, Except.pure]
  rw [ofLayers, merged, taken]

theorem load_of_onlyNames {host : Host} {root folder written : String}
    (noFiles : HasNoFiles host root) (onlyNames : host.environment.OnlyNames folder)
    (isWritten : Setting.toText
      (.scalar (some "the environment") (SettingLayer.scalarOfVariable folder)) = .ok written) :
    (load Host.surroundings root).run host = (.ok { store := { path := written } }, host) := by
  simp only [load, StateT.run, bind, StateT.bind, noFiles.standingLayers_eq,
    environment_surroundings]
  simp only [assemble, onlyNames.ofEnvironment_eq, List.append_nil, List.singleton_append,
    ofLayers_storePath isWritten]
  rfl

/-- Where only a variable names the folder of the store, loading changes no other setting;
the folder has the name that the variable gives exactly if that is plainly written. -/
theorem load_storePath_eq_iff {host : Host} {root folder : String}
    (noFiles : HasNoFiles host root) (onlyNames : host.environment.OnlyNames folder) :
    ∃ written,
      (load Host.surroundings root).run host = (.ok { store := { path := written } }, host) ∧
        (written = folder ↔ IsPlain folder) := by
  obtain ⟨written, isWritten, same_iff⟩ := exists_toText_scalarOfVariable "the environment" folder
  exact ⟨written, load_of_onlyNames noFiles onlyNames isWritten, same_iff⟩

/-- A host without files, and with a variable for the folder of the store. -/
def hostNaming (folder : String) : Host where
  environment := ⟨[("CODEWEAVE__STORE__PATH", folder)]⟩

theorem hasNoFiles_hostNaming (folder : String) : HasNoFiles (hostNaming folder) "/work" where
  globalFile _ found := nomatch found
  workspaceFiles := by
    have kindless : (hostNaming folder).environment.get? "CODEWEAVE_ENV" = none := rfl
    have absent : ∀ path ∈ workspacePaths {} "/work", ({} : Host).file? path = none := by
      decide +kernel
    rw [workspacePaths, kindless]
    exact absent

theorem onlyNames_hostNaming (folder : String) :
    (hostNaming folder).environment.OnlyNames folder := by
  have keyed : (SettingLayer.keyOfVariable? "CODEWEAVE__STORE__PATH").isSome = true := by
    decide +kernel
  simp [Environment.OnlyNames, hostNaming, keyed]

theorem load_storePath_with_slash :
    HasNoFiles (hostNaming "/srv/store") "/work" ∧
      (hostNaming "/srv/store").environment.OnlyNames "/srv/store" ∧
      (load Host.surroundings "/work").run (hostNaming "/srv/store") =
        (.ok { store := { path := "/srv/store" } }, hostNaming "/srv/store") := by
  have noFiles := hasNoFiles_hostNaming "/srv/store"
  have onlyNames := onlyNames_hostNaming "/srv/store"
  obtain ⟨written, loaded, same_iff⟩ := load_storePath_eq_iff noFiles onlyNames
  have plain : IsPlain "/srv/store" := isPlain_of_mark (c := '/') (by decide) (by decide)
  rw [same_iff.mpr plain] at loaded
  exact ⟨noFiles, onlyNames, loaded⟩

/-- Zeros in front of a number are lost, and another folder is named. -/
theorem zeros_are_lost :
    HasNoFiles (hostNaming "007") "/work" ∧ (hostNaming "007").environment.OnlyNames "007" ∧
      (load Host.surroundings "/work").run (hostNaming "007") =
        (.ok { store := { path := "7" } }, hostNaming "007") ∧
      "7" ≠ "007" :=
  ⟨hasNoFiles_hostNaming "007", onlyNames_hostNaming "007",
    load_of_onlyNames (hasNoFiles_hostNaming "007") (onlyNames_hostNaming "007") rfl, by decide⟩

end Settings

end PageInjection
