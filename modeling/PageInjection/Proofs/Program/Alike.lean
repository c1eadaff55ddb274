import PageInjection.Logging.Setup
import PageInjection.Proofs.Store.Lookup
import PageInjection.Session

/-!
# Hosts that differ in what they say about the log

Variables of the environment may speak about the log.  Two hosts are alike when they differ
in nothing but these and their clocks.  Looking for settings on alike hosts gives the same,
and leaves each host as it was: files are read, and of the variables only others count.
-/

namespace PageInjection

/-- The variables that speak about the log. -/
def LogVariables.names : List String :=
  ["CODEWEAVE_LOG", "CODEWEAVE_LOG_FORMAT", "CODEWEAVE_LOG_OUTPUT", "CODEWEAVE_LOG_MODULES"]

namespace Environment

/-- The variables that do not speak about the log. -/
def unlogged (environment : Environment) : Environment :=
  ⟨environment.entries.filter fun entry => !LogVariables.names.contains entry.1⟩

theorem get?_unlogged (environment : Environment) (name : String)
    (other : name ∉ LogVariables.names) :
    environment.unlogged.get? name = environment.get? name := by
  have kept : (!LogVariables.names.contains name) = true := by simpa using other
  rw [get?, unlogged, lookup_filter_keys environment.entries (!LogVariables.names.contains ·), kept]
  rfl

theorem globalPath?_unlogged (environment : Environment) :
    Settings.globalPath? environment.unlogged = Settings.globalPath? environment := by
  have folder := environment.get?_unlogged "XDG_CONFIG_HOME" (by decide)
  have home := environment.get?_unlogged "HOME" (by decide)
  simp only [Settings.globalPath?, filled?, folder, home]

theorem workspacePaths_unlogged (environment : Environment) (root : String) :
    Settings.workspacePaths environment.unlogged root =
      Settings.workspacePaths environment root := by
  have kind := environment.get?_unlogged "CODEWEAVE_ENV" (by decide)
  simp only [Settings.workspacePaths, kind]

/-- No variable that speaks about the log gives a setting. -/
theorem ofEnvironment_unlogged (environment : Environment) :
    SettingLayer.ofEnvironment environment.unlogged = SettingLayer.ofEnvironment environment := by
  have keyless : ∀ name ∈ LogVariables.names, SettingLayer.keyOfVariable? name = none := by
    decide +kernel
  rw [SettingLayer.ofEnvironment, SettingLayer.ofEnvironment, unlogged, List.filterMap_filter]
  congr 1
  funext entry
  by_cases speaks : entry.1 ∈ LogVariables.names
  · simp [keyless entry.1 speaks]
  · simp [speaks]

end Environment

namespace Host

/-- Two hosts that differ in nothing but their clocks and the variables that speak about the
log. -/
structure IsAlike (host other : Host) : Prop where
  environment : host.environment.unlogged = other.environment.unlogged
  currentFolder : host.currentFolder = other.currentFolder
  accountHome : host.accountHome = other.accountHome
  disk : host.disk = other.disk
  databases : host.databases = other.databases

theorem IsAlike.refl (host : Host) : host.IsAlike host := ⟨rfl, rfl, rfl, rfl, rfl⟩

theorem IsAlike.current {host other : Host} (alike : host.IsAlike other) :
    host.current = other.current := by
  rw [Host.current, Host.current, alike.currentFolder]

variable {α β : Type} {related : Host → Host → Prop}

/-- On related hosts the action gives the same, and leaves them related. -/
def Keeps (related : Host → Host → Prop) (action : StateM Host α) : Prop :=
  ∀ host other, related host other →
    (action host).1 = (action other).1 ∧ related (action host).2 (action other).2

namespace Keeps

theorem pure (value : α) : Keeps related (Pure.pure value) := fun _ _ together => ⟨rfl, together⟩

theorem bind {action : StateM Host α} {next : α → StateM Host β} (first : Keeps related action)
    (later : ∀ value, Keeps related (next value)) : Keeps related (action >>= next) := by
  intro host other together
  obtain ⟨same, still⟩ := first host other together
  have after := later (action host).1 _ _ still
  change (next (action host).1 (action host).2).1 = (next (action other).1 (action other).2).1 ∧
    related (next (action host).1 (action host).2).2 (next (action other).1 (action other).2).2
  rw [← same]
  exact after

theorem forIn {items : List α} {body : α → β → StateM Host (ForInStep β)}
    (each : ∀ item state, Keeps related (body item state)) (state : β) :
    Keeps related (ForIn.forIn items state body) := by
  induction items generalizing state with
  | nil => exact .pure state
  | cons item items ih =>
      rw [List.forIn_cons]
      refine .bind (each item state) fun step => ?_
      cases step with
      | done result => exact .pure result
      | yield result => exact ih result

/-! What related hosts show is the same, if they are alike. -/

variable (within : ∀ host other, related host other → host.IsAlike other)

include within

/-- A question about the environment in which the log does not matter. -/
theorem environment {next : Environment → StateM Host β}
    (unlogged : ∀ environment, next environment.unlogged = next environment)
    (later : ∀ environment, Keeps related (next environment)) :
    Keeps related (Host.surroundings.environment >>= next) := by
  intro host other together
  have same : next host.environment = next other.environment := by
    rw [← unlogged host.environment, (within _ _ together).environment, unlogged]
  have after := later host.environment host other together
  change (next host.environment host).1 = (next other.environment other).1 ∧
    related (next host.environment host).2 (next other.environment other).2
  rw [← same]
  exact after

theorem currentFolder : Keeps related Host.surroundings.currentFolder :=
  fun _ _ together => ⟨(within _ _ together).currentFolder, together⟩

theorem look (path : String) : Keeps related (Host.surroundings.look path) := by
  intro host other together
  have alike := within _ _ together
  change host.disk.look host.current path = other.disk.look other.current path ∧
    related host other
  rw [alike.disk, alike.current]
  exact ⟨rfl, together⟩

end Keeps

end Host

namespace Settings

open Host (Keeps)

theorem assemble_unlogged (files : Except FileFault (List SettingLayer))
    (environment : Environment) :
    assemble files environment.unlogged = assemble files environment := by
  cases files with
  | error fault => rfl
  | ok layers => rw [assemble, environment.ofEnvironment_unlogged, assemble]

variable {related : Host → Host → Prop}
  (within : ∀ host other, related host other → host.IsAlike other)

include within

theorem fileAt?_keeps (path : String) : Keeps related (fileAt? Host.surroundings path) := by
  refine .bind (.look within path) fun looked => ?_
  split <;> exact .pure _

theorem findFile_keeps (path : String) : Keeps related (findFile Host.surroundings path) := by
  refine .bind (.currentFolder within) fun folder => ?_
  refine .bind (fileAt?_keeps within _) fun file => ?_
  cases file with
  | some file =>
      dsimp only
      split <;> exact .pure _
  | none =>
      refine .bind (.forIn (fun item state => ?_) _) fun found => ?_
      · refine .bind (fileAt?_keeps within _) fun file => ?_
        cases file <;> exact .pure _
      · dsimp only
        split <;> exact .pure _

theorem fileLayer_keeps (path : String) : Keeps related (fileLayer Host.surroundings path) := by
  refine .bind (findFile_keeps within path) fun found => ?_
  cases found with
  | error fault => exact .pure _
  | ok file =>
      refine .bind (.currentFolder within) fun folder => ?_
      split <;> exact .pure _

theorem optionalLayer_keeps (path : String) :
    Keeps related (optionalLayer Host.surroundings path) := by
  refine .bind (fileLayer_keeps within path) fun layer => ?_
  split <;> exact .pure _

theorem globalFile?_keeps : Keeps related (globalFile? Host.surroundings) := by
  refine .environment within (fun environment => ?_) fun environment => ?_
  · rw [environment.globalPath?_unlogged]
  · cases globalPath? environment with
    | none => exact .pure _
    | some path => exact .bind (.look within path) fun looked => .pure _

theorem globalSource?_keeps : Keeps related (globalSource? Host.surroundings) := by
  refine .bind (globalFile?_keeps within) fun found => ?_
  split
  · exact .bind (.currentFolder within) fun folder => .pure _
  · exact .pure _

theorem standingLayers_keeps (root : String) :
    Keeps related (standingLayers Host.surroundings root) := by
  refine .bind (globalSource?_keeps within) fun source? => ?_
  refine .environment within (fun environment => ?_) fun environment => ?_
  · rw [environment.workspacePaths_unlogged]
  · refine .bind (.forIn (fun path paths => ?_) _) fun paths => ?_
    · refine .bind (fileAt?_keeps within path) fun file => ?_
      split <;> exact .pure _
    · refine .bind (.forIn (fun path state => ?_) _) fun state => ?_
      · refine .bind (optionalLayer_keeps within path) fun layer => ?_
        cases layer <;> exact .pure _
      · dsimp only
        split <;> exact .pure _

/-- Loading settings does not depend on what is said about the log. -/
theorem loadFor_keeps (root : String) (file : Option String) :
    Keeps related (loadFor Host.surroundings root file) := by
  cases file with
  | none =>
      refine .bind (standingLayers_keeps within root) fun files => ?_
      refine .environment within (fun environment => ?_) fun environment => .pure _
      rw [assemble_unlogged]
  | some path =>
      refine .bind (fileLayer_keeps within path) fun files => ?_
      refine .environment within (fun environment => ?_) fun environment => .pure _
      rw [assemble_unlogged]

end Settings

end PageInjection
