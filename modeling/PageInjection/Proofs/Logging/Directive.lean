import Mathlib.Data.List.TakeDrop
import PageInjection.Logging.Filter
import PageInjection.Logging.Settings
import PageInjection.Proofs.Text.Numeral
import PageInjection.Proofs.Text.Trimmed

/-!
# Levels of targets

A directive in which an equals sign stands between a target and a level is read exactly when
the target can be one and the level is a level: a name in any case, a number up to five, or
nothing at all.
-/

namespace PageInjection

/-- The text says a level: by saying nothing, by a number, or by its name in any ASCII
case. -/
def IsLevel (text : List Char) : Prop :=
  text = [] ∨ (∃ rank ≤ 5, Text.Spelled text rank) ∨
    String.ofList (text.map Char.toLower) ∈ LoggingSettings.levelWords

namespace LogLevel

theorem isSome_ofRank?_iff {rank : Nat} : (ofRank? rank).isSome = true ↔ rank ≤ 5 := by
  constructor
  · intro known
    unfold ofRank? at known
    split at known
    all_goals first | omega | exact nomatch known
  · intro small
    have known : ∀ rank < 6, (ofRank? rank).isSome = true := by decide
    exact known rank (by omega)

theorem isSome_ofNumber_iff {word : List Char} :
    ((Text.uint64? word).bind (ofRank? ·.toNat)).isSome = true ↔
      ∃ rank ≤ 5, Text.Spelled word rank := by
  constructor
  · intro known
    obtain ⟨level, found⟩ := Option.isSome_iff_exists.mp known
    obtain ⟨number, read, ranked⟩ := Option.bind_eq_some_iff.mp found
    exact ⟨number.toNat, isSome_ofRank?_iff.mp (by rw [ranked]; rfl),
      Text.uint64?_eq_some_iff.mp read⟩
  · rintro ⟨rank, small, spelled⟩
    have inRange : (UInt64.ofNat rank).toNat = rank :=
      UInt64.toNat_ofNat_of_lt' (Nat.lt_of_le_of_lt small (by decide))
    have read : Text.uint64? word = some (UInt64.ofNat rank) :=
      Text.uint64?_eq_some_iff.mpr (inRange.symm ▸ spelled)
    rw [read, Option.bind_some, inRange]
    exact isSome_ofRank?_iff.mpr small

theorem isSome_ofWord?_iff {word : List Char} : (ofWord? word).isSome = true ↔ IsLevel word := by
  have unset : word = [] ↔ String.ofList (word.map Char.toLower) = "" := by
    rw [← String.toList_inj, String.toList_ofList]
    exact List.map_eq_nil_iff.symm
  unfold ofWord? IsLevel
  rw [← isSome_ofNumber_iff, unset]
  cases (Text.uint64? word).bind (ofRank? ·.toNat) with
  | some level => simp
  | none =>
      generalize String.ofList (word.map Char.toLower) = lower
      dsimp only
      split <;> simp_all [LoggingSettings.levelWords]

end LogLevel

namespace LogDirective

theorem exists_levelOf_eq_iff {text : List Char} :
    (∃ level, levelOf text = .ok level) ↔ IsLevel text := by
  rw [← LogLevel.isSome_ofWord?_iff]
  cases text with
  | nil => exact iff_of_true ⟨.trace, rfl⟩ rfl
  | cons c rest =>
      simp only [levelOf]
      cases LogLevel.ofWord? (c :: rest) <;> simp

/-- Trimming a directive leaves the equals sign alone. -/
theorem trim_given (target level : List Char) :
    Text.trim (target ++ '=' :: level) = Text.trimLeft target ++ '=' :: Text.trimRight level := by
  obtain ⟨front, targetSplit, frontBlank, bareFront⟩ := Text.exists_trimLeft_split target
  obtain ⟨back, levelSplit, backBlank, bareBack⟩ := Text.exists_trimRight_split level
  refine Text.trim_eq_iff.mpr ⟨⟨?_, ?_⟩, front, back, ?_, frontBlank, backBlank⟩
  · intro c first
    cases known : Text.trimLeft target with
    | nil =>
        rw [known] at first
        obtain rfl := Option.some.inj first
        rfl
    | cons d rest =>
        rw [known] at first bareFront
        exact bareFront c first
  · intro c last
    cases known : Text.trimRight level with
    | nil =>
        obtain rfl : '=' = c := by simpa [known] using last
        rfl
    | cons d rest =>
        refine bareBack c ?_
        simpa [known] using last
  · calc
      target ++ '=' :: level =
          (front ++ Text.trimLeft target) ++ '=' :: (Text.trimRight level ++ back) := by
        rw [← targetSplit, ← levelSplit]
      _ = front ++ (Text.trimLeft target ++ '=' :: Text.trimRight level) ++ back := by simp

/-- A target with neither an equals sign nor a bracket in it is given a level exactly when
it starts as a target does and the level is one. -/
theorem exists_parse_eq_iff {target : List Char} (noValue : '=' ∉ target) (noSpan : '[' ∉ target)
    (level : List Char) :
    (∃ directive, parse (target ++ '=' :: level) = .ok directive) ↔
      (∃ c rest, Text.trimLeft target = c :: rest ∧ startsTarget c = true) ∧
        IsLevel (Text.trimRight level) := by
  have suffix : Text.trimLeft target <:+ target := List.dropWhile_suffix _
  unfold parse
  rw [trim_given]
  cases known : Text.trimLeft target with
  | nil => exact iff_of_false nofun nofun
  | cons c rest =>
      rw [known] at suffix
      have unmarked : ∀ d ∈ c :: rest, d ≠ '=' ∧ d ≠ '[' := fun d member =>
        ⟨fun same => noValue (same ▸ suffix.mem member),
          fun same => noSpan (same ▸ suffix.mem member)⟩
      obtain ⟨⟨_, notBracket⟩, unmarkedRest⟩ := List.forall_mem_cons.mp unmarked
      have inTarget : ∀ d ∈ rest, (d != '=' && d != '[') = true := by
        intro d member
        simpa using unmarkedRest d member
      have split : (rest ++ '=' :: Text.trimRight level).span (fun d => d != '=' && d != '[') =
          (rest, '=' :: Text.trimRight level) := by
        rw [List.span_eq_takeWhile_dropWhile, List.takeWhile_append_of_pos inTarget,
          List.dropWhile_append_of_pos inTarget]
        simp
      rw [List.cons_append]
      have starts_iff : (∃ d others, c :: rest = d :: others ∧ startsTarget d = true) ↔
          startsTarget c = true := by simp
      simp only [split]
      rw [starts_iff, ← exists_levelOf_eq_iff]
      cases startsTarget c with
      | false => simp
      | true => cases levelOf (Text.trimRight level) <;> simp [bind, Except.bind, pure, Except.pure]

end LogDirective

end PageInjection
