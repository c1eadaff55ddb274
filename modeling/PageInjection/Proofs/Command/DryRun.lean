import PageInjection.Proofs.Command.Outcome
import PageInjection.Proofs.Injection.ClosedGate
import PageInjection.Proofs.Store.Labels

/-!
# A dry run foretells the footer

A script that is run from the command line and one that is read from the store come
to the same verdict.  Where nothing else is emitted, the answer of the command tells
the footer: the same markup, or the comment on the same failure.
-/

namespace PageInjection

namespace Sandbox

variable (engine : Engine) (limits : Limits) (script : String) (context : RequestContext)

/-- What a script comes to, wherever it is from: what it prints, or the message of its
failure. -/
def verdict : Except String String :=
  if script.isEmpty then .ok ""
  else (judge limits (engine limits context script)).mapError ScriptFault.message

/-- The origin of a script has no part in its verdict, only in the label of a failure. -/
theorem run_eq_verdict (origin : ScriptOrigin) :
    run engine limits origin script context =
      match verdict engine limits script context with
      | .ok output => { markup := output }
      | .error message =>
          { markup := Markup.diagnosticComment origin.label message, error := some message } := by
  unfold run verdict
  split
  · rfl
  · cases judge limits (engine limits context script) with
    | ok output => rfl
    | error fault => rfl

end Sandbox

/-- An answer foretells a footer: markup without errors, or the comment on a failure
with this label and the failure as the only error. -/
structure Foretells (label : String) (answer : Except CommandFault String)
    (footer : RenderedPoint) : Prop where
  ok_iff : ∀ markup, answer = .ok markup ↔ footer = ⟨markup, []⟩
  failed_iff : ∀ message, answer = .error (.scriptFailed message) ↔
    footer = ⟨"<!-- " ++ label ++ ": " ++ String.ofList (Markup.escape message.toList) ++ " -->",
      [message]⟩
  either : (∃ markup, answer = .ok markup) ∨ ∃ message, answer = .error (.scriptFailed message)

theorem foretells_ok (label output : String) : Foretells label (.ok output) ⟨output, []⟩ where
  ok_iff _ := by simp
  failed_iff _ := by simp
  either := .inl ⟨output, rfl⟩

theorem foretells_failed (label message : String) :
    Foretells label (.error (.scriptFailed message))
      ⟨Markup.diagnosticComment label message, [message]⟩ where
  ok_iff _ := by simp
  failed_iff other := by
    constructor
    · intro same
      obtain rfl := CommandFault.scriptFailed.inj (Except.error.inj same)
      rfl
    · intro same
      obtain rfl := (List.cons.inj (RenderedPoint.mk.inj same).2).1
      rfl
  either := .inr ⟨message, rfl⟩

namespace Command

variable (setting : CommandSetting) (database : Database) (script : String)
  (request : RequestFlags)

/-- Running a script from the command line foretells what it leaves from its slot. -/
theorem foretells_script (source : FragmentSource) {fragment : Fragment} {slot : Slot}
    (ofSlot : fragment.slot = slot) (same : fragment.content = script) :
    Foretells (ScriptOrigin.stored slot.scope).label
      ((Command.exec (.inline script) request).outcome setting database).1
      (({ engine := setting.engine, limits := setting.limits, source } : Injection).script
        fragment request.context) := by
  subst ofSlot same
  rw [outcome_exec]
  unfold Injection.script Sandbox.executeFragment Sandbox.executeFor
  simp only [content_inline, Except.bind, Sandbox.run_eq_verdict]
  cases Sandbox.verdict setting.engine setting.limits fragment.content request.context with
  | ok output => exact foretells_ok _ output
  | error message => exact foretells_failed _ message

/-- A dry run foretells the footer of a request for which the store holds that script
alone: as the script of the resource behind a closed gate, or as the global script
behind an open one.  The store is any whose fragments carry the labels of their slots,
and so it is in memory, and in a database after every run of changes.  Databases that hold
a record with a label other than that of its slot are left out; no change writes one. -/
theorem dry_run_foretells_footer :
    let context := request.context
    let answer := ((Command.exec (.inline script) request).outcome setting database).1
    (∀ source : FragmentSource, source.IsLabelled →
      let live : Injection := { engine := setting.engine, limits := setting.limits, source }
      (∀ id, context.isSingular = true → context.resourceId = some id →
        live.gate context = false → (live.resourceFragment id).content = script →
          Foretells "Resource script error" answer (live.render context .footer)) ∧
      (live.gate context = true → (live.globalFragment .clientScript).content = "" →
        (∀ id, context.singularResourceId = some id →
          (live.resourceFragment id).content = "") →
        (live.globalFragment .serverScript).content = script →
          Foretells "Global script error" answer (live.render context .footer))) ∧
    (∀ store : MemoryStore, store.source.IsLabelled) ∧
    ∀ run : List (Int64 × StoreWrite), (∀ step ∈ run, step.2.IsStorable) →
      (Database.after run).source.IsLabelled := by
  intro context answer
  refine ⟨?_, MemoryStore.source_isLabelled, fun _ => Database.source_after_isLabelled⟩
  intro source labelled live
  constructor
  · intro id singular resource closed same
    have current : context.singularResourceId = some id :=
      ConditionRule.singularResourceId_eq_some_iff.mpr ⟨singular, resource⟩
    have footer : live.render context .footer =
        live.script (live.resourceFragment id) context :=
      (live.footer_of_closed closed).trans (Injection.resourceFooter_of_some current)
    have ofSlot : (live.resourceFragment id).slot = ⟨.resource id, .serverScript⟩ :=
      Injection.slot_resourceFragment labelled id
    rw [footer]
    exact foretells_script setting database script request source ofSlot same
  · intro passes noClient noResource same
    have footer : live.render context .footer =
        live.script (live.globalFragment .serverScript) context :=
      Injection.footer_of_only_globalScript passes noClient noResource
    have ofSlot : (live.globalFragment .serverScript).slot = ⟨.global, .serverScript⟩ :=
      Injection.slot_globalFragment labelled .serverScript
    rw [footer]
    exact foretells_script setting database script request source ofSlot same

/-- The script of a page prints and then throws a tag: the command fails with what was
thrown, so the footer is the comment on it.  A global script prints for every page: the
command answers with the footer. -/
theorem dry_run_of_page_script_and_of_global_script :
    let thrower := "echo(\"half\"); throw \"<b>\";"
    let printer := "echo(\"[global]\");"
    let closed : List (Int64 × StoreWrite) :=
      [(1, .setRules "post-99"), (2, .setGlobal .clientScript "go();"), (3, .setResource 4 thrower)]
    let passing : List (Int64 × StoreWrite) :=
      [(1, .setRules "all"), (2, .setGlobal .serverScript printer)]
    let setting : CommandSetting := { readFile := fun _ => .error .missing }
    let request : RequestFlags := { resourceId := some 4, isSingular := true }
    let footer (run : List (Int64 × StoreWrite)) : RenderedPoint :=
      ({ source := (Database.after run).source } : Injection).render request.context .footer
    (∀ step ∈ closed ++ passing, step.2.IsStorable) ∧
      ((Command.exec (.inline thrower) request).outcome setting .empty).1 =
        .error (.scriptFailed "<b>") ∧
      footer closed = ⟨"<!-- Resource script error: &lt;b&gt; -->", ["<b>"]⟩ ∧
      ((Command.exec (.inline printer) request).outcome setting .empty).1 = .ok "[global]" ∧
      footer passing = ⟨"[global]", []⟩ := by
  intro thrower printer closed passing setting request footer
  have storable : ∀ step ∈ closed ++ passing, step.2.IsStorable := by decide
  obtain ⟨storableClosed, storablePassing⟩ := List.forall_mem_append.mp storable
  have thrown : footer closed =
      ⟨"<!-- Resource script error: &lt;b&gt; -->", ["<b>"]⟩ := by decide +kernel
  have printed : footer passing = ⟨"[global]", []⟩ := by decide +kernel
  obtain ⟨ofPage, _, labelled⟩ := dry_run_foretells_footer setting .empty thrower request
  obtain ⟨ofGlobal, _⟩ := dry_run_foretells_footer setting .empty printer request
  have failed := ((ofPage _ (labelled closed storableClosed)).1 4 rfl rfl (by decide +kernel)
    (by decide +kernel)).failed_iff "<b>"
  have noResource : ∀ id, request.context.singularResourceId = some id →
      (({ source := (Database.after passing).source } : Injection).resourceFragment id).content =
        "" := by
    intro id resource
    obtain rfl := Option.some.inj resource
    decide +kernel
  have answered := ((ofGlobal _ (labelled passing storablePassing)).2 (by decide +kernel)
    (by decide +kernel) noResource (by decide +kernel)).ok_iff "[global]"
  exact ⟨storable, failed.mpr thrown, thrown, answered.mpr printed, printed⟩

end Command

end PageInjection
