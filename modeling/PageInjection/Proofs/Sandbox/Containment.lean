import PageInjection.Proofs.Markup.Entity
import PageInjection.Proofs.Sandbox.Output
import PageInjection.Sandbox

/-!
# Containment of script failures

Whatever an interpreter does, a run hands over either exactly what it printed or
one comment.  The comment is made of the label and the message alone, has no
angle bracket but its own two, and gives the message back when its entities are
read.
-/

namespace PageInjection

namespace Markup

/-- The comment on a failure: nothing inside of it opens or closes markup, and
the message can be read back from it. -/
structure IsComment (label message markup : String) : Prop where
  written : ∃ escaped : List Char,
    markup = "<!-- " ++ label ++ ": " ++ String.ofList escaped ++ " -->" ∧
      unescape escaped = message.toList
  enclosed : ∃ inner : List Char,
    markup.toList = '<' :: (inner ++ ['>']) ∧ '<' ∉ inner ∧ '>' ∉ inner

/-- A label without angle brackets. -/
def IsLabel (label : String) : Prop :=
  '<' ∉ label.toList ∧ '>' ∉ label.toList

theorem isComment_diagnosticComment {label : String} (labelled : IsLabel label)
    (message : String) :
    IsComment label message (diagnosticComment label message) where
  written := ⟨escape message.toList, rfl, unescape_escape message.toList⟩
  enclosed := by
    have noOpen : '<' ∉ escape message.toList :=
      not_mem_escape (by decide) (by decide) _
    have noClose : '>' ∉ escape message.toList :=
      not_mem_escape (by decide) (by decide) _
    refine ⟨"!-- ".toList ++ label.toList ++ ": ".toList ++ escape message.toList ++
      " --".toList, ?_, ?_, ?_⟩
    · simp [diagnosticComment]
    · simp [noOpen, labelled.1]
    · simp [noClose, labelled.2]

end Markup

theorem ScriptOrigin.isLabel_label (origin : ScriptOrigin) :
    Markup.IsLabel origin.label := by
  rcases origin with _ | (_ | id)
  · exact ⟨by decide, by decide⟩
  · exact ⟨by decide, by decide⟩
  · change Markup.IsLabel "Resource script error"
    exact ⟨by decide, by decide⟩

/-- What a run with a label may hand over, given what the interpreter does with
the script. -/
structure Contained (limits : Limits) (label script : String)
    (transcript : Script.Transcript) (result : InjectionResult) : Prop where
  unset : script = "" → result.markup = "" ∧ result.error = none
  succeeds_iff : script ≠ "" →
    (result.error = none ↔ transcript.ending = .finished ∧
      OutputSink.Allows limits.outputBytes.toNat (printed transcript.writes))
  success : script ≠ "" → result.error = none →
    result.markup = printed transcript.writes
  failure : ∀ message, result.error = some message →
    result.markup = Markup.diagnosticComment label message ∧
      Markup.IsComment label message result.markup

namespace Sandbox

theorem judge_finished {limits : Limits} {transcript : Script.Transcript}
    (finished : transcript.ending = .finished)
    (allowed : OutputSink.Allows limits.outputBytes.toNat (printed transcript.writes)) :
    judge limits transcript = .ok (printed transcript.writes) := by
  have took := OutputSink.took_collect limits.outputBytes.toNat transcript.writes
  have silent : ¬ (OutputSink.collect limits.outputBytes.toNat
      transcript.writes).overflowed = true :=
    fun overflowed => took.overflows overflowed allowed
  have held := took.collects (Bool.not_eq_true _ ▸ silent)
  simp [judge, finished, silent, held.2]

theorem judge_overflowed {limits : Limits} {transcript : Script.Transcript}
    (finished : transcript.ending = .finished)
    (exceeds : ¬ OutputSink.Allows limits.outputBytes.toNat
      (printed transcript.writes)) :
    judge limits transcript = .error (outputFault limits) := by
  have took := OutputSink.took_collect limits.outputBytes.toNat transcript.writes
  have overflowed : (OutputSink.collect limits.outputBytes.toNat
      transcript.writes).overflowed = true := by
    by_cases holds : (OutputSink.collect limits.outputBytes.toNat
      transcript.writes).overflowed = true
    · exact holds
    · exact absurd (took.collects (Bool.not_eq_true _ ▸ holds)).1 exceeds
  simp [judge, finished, overflowed]

/-- Any other ending is a fault, whatever was printed. -/
theorem judge_unfinished {limits : Limits} {transcript : Script.Transcript}
    (unfinished : transcript.ending ≠ .finished) :
    ∃ fault, judge limits transcript = .error fault := by
  unfold judge
  cases ending : transcript.ending with
  | finished => exact absurd ending unfinished
  | halted halt => cases halt <;> exact ⟨_, rfl⟩
  | misread _ => exact ⟨_, rfl⟩
  | thrown _ => exact ⟨_, rfl⟩
  | failed _ => exact ⟨_, rfl⟩
  | limited _ => exact ⟨_, rfl⟩
  | crashed _ => exact ⟨_, rfl⟩
  | notStarted _ => exact ⟨_, rfl⟩

/-- A run succeeds with everything printed, or fails. -/
theorem judge_cases (limits : Limits) (transcript : Script.Transcript) :
    (transcript.ending = .finished ∧
        OutputSink.Allows limits.outputBytes.toNat (printed transcript.writes) ∧
        judge limits transcript = .ok (printed transcript.writes)) ∨
      (¬ (transcript.ending = .finished ∧
          OutputSink.Allows limits.outputBytes.toNat (printed transcript.writes)) ∧
        ∃ fault, judge limits transcript = .error fault) := by
  by_cases finished : transcript.ending = .finished
  · by_cases allowed :
        OutputSink.Allows limits.outputBytes.toNat (printed transcript.writes)
    · exact .inl ⟨finished, allowed, judge_finished finished allowed⟩
    · exact .inr ⟨fun both => allowed both.2, _, judge_overflowed finished allowed⟩
  · exact .inr ⟨fun both => finished both.1, judge_unfinished finished⟩

theorem run_contained (engine : Engine) (limits : Limits) (origin : ScriptOrigin)
    (script : String) (context : RequestContext) :
    Contained limits origin.label script (engine limits context script)
      (run engine limits origin script context) := by
  by_cases unset : script = ""
  · have nothing : run engine limits origin script context = .empty := by
      simp [run, unset]
    rw [nothing]
    exact ⟨fun _ => ⟨rfl, rfl⟩, fun set => absurd unset set,
      fun set => absurd unset set, fun _ failed => absurd failed (by simp [InjectionResult.empty])⟩
  · have notEmpty : ¬ script.isEmpty = true := by simpa using unset
    rcases judge_cases limits (engine limits context script) with
      ⟨finished, allowed, judged⟩ | ⟨neither, fault, judged⟩
    · have result : run engine limits origin script context =
          { markup := printed (engine limits context script).writes } := by
        simp [run, notEmpty, judged]
      rw [result]
      exact ⟨fun empty => absurd empty unset, fun _ => iff_of_true rfl ⟨finished, allowed⟩,
        fun _ _ => rfl, fun _ failed => absurd failed (by simp)⟩
    · have result : run engine limits origin script context =
          { markup := Markup.diagnosticComment origin.label fault.message
            error := some fault.message } := by
        simp [run, notEmpty, judged]
      rw [result]
      refine ⟨fun empty => absurd empty unset, fun _ => iff_of_false (by simp) neither,
        fun _ succeeded => absurd succeeded (by simp), ?_⟩
      rintro message failed
      obtain rfl := Option.some.inj failed
      exact ⟨rfl, Markup.isComment_diagnosticComment origin.isLabel_label _⟩

/-- Every entry point contains failures, for every interpreter, script, request
and configuration of limits. -/
theorem runs_are_contained (engine : Engine) (limits : Limits) (script : String)
    (context : RequestContext) :
    Contained limits "Script error" script (engine limits {} script)
        (execute engine limits script) ∧
      Contained limits "Script error" script (engine limits context script)
        (executeFor engine limits script context) ∧
      (∀ kind, Contained limits "Global script error" script
        (engine limits context script)
        (executeFragment engine limits ⟨kind, .global, script⟩ context)) ∧
      (∀ kind id, Contained limits "Resource script error" script
        (engine limits context script)
        (executeFragment engine limits ⟨kind, .resource id, script⟩ context)) :=
  ⟨run_contained engine limits .plain script {},
    run_contained engine limits .plain script context,
    fun _ => run_contained engine limits (.stored .global) script context,
    fun _ id => run_contained engine limits (.stored (.resource id)) script context⟩

end Sandbox

end PageInjection
