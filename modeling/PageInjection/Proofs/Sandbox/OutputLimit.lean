import PageInjection.Proofs.Sandbox.Containment
import PageInjection.Proofs.Script.Evaluate

/-!
# The limit of the output

The limit is exact, and a run that exceeds it gives nothing.  Output is taken in piece by
piece; a line break is a piece of its own and may be the one that is too much.  What the
interpreter of scripts says about the output is what the sink says.
-/

namespace PageInjection

/-- The pieces of an act of printing, in which it is taken in. -/
def Write.pieces : Write → List String
  | .echo text => [text]
  | .print line => [line, "\n"]

namespace OutputSink

variable {limit : Nat} {sink : OutputSink} {pieces : List String}

/-- Take in pieces of text, one after the other. -/
def putAll (limit : Nat) (pieces : List String) : OutputSink :=
  pieces.foldl put { limit }

/-- Acts of printing are taken in as their pieces. -/
theorem collect_eq_putAll (limit : Nat) (writes : List Write) :
    collect limit writes = putAll limit (writes.flatMap Write.pieces) := by
  have written : write = fun sink act => act.pieces.foldl put sink := by
    funext sink act
    cases act <;> rfl
  rw [collect, putAll, List.foldl_flatMap, written]

theorem printed_eq_join (writes : List Write) :
    printed writes = String.join (writes.flatMap Write.pieces) := by
  induction writes with
  | nil => rfl
  | cons act writes ih =>
      rw [printed, ih, List.flatMap_cons, String.join_append]
      cases act <;> simp [Write.text, Write.pieces]

theorem not_allows_iff {text : String} :
    ¬Allows limit text ↔ limit ≠ 0 ∧ limit < text.utf8ByteSize := by
  simp [Allows]

theorem Took.overflowed_iff {text : String} (took : Took limit text sink) :
    sink.overflowed = true ↔ limit ≠ 0 ∧ limit < text.utf8ByteSize := by
  rw [← not_allows_iff]
  refine ⟨took.overflows, fun exceeds => ?_⟩
  by_cases overflowed : sink.overflowed = true
  · exact overflowed
  · exact absurd (took.collects (Bool.not_eq_true _ ▸ overflowed)).1 exceeds

theorem took_putAll (limit : Nat) (pieces : List String) :
    Took limit (String.join pieces) (putAll limit pieces) := by
  suffices later : ∀ {text sink}, Took limit text sink →
      Took limit (text ++ String.join pieces) (pieces.foldl put sink) by
    simpa [putAll] using later (Took.start limit)
  induction pieces with
  | nil => exact fun took => by simpa using took
  | cons piece pieces ih =>
      intro text sink took
      rw [String.join_cons, ← String.append_assoc]
      exact ih (took.put piece)

theorem putAll_of_overflowed (overflowed : (putAll limit pieces).overflowed = true)
    (more : List String) : putAll limit (pieces ++ more) = putAll limit pieces := by
  rw [putAll, List.foldl_append, ← putAll]
  induction more with
  | nil => rfl
  | cons piece more ih => rw [List.foldl_cons, put_of_overflowed overflowed, ih]

/-- One piece more does not take a sink beyond its limit. -/
theorem size_put_le {sink : OutputSink} (piece : String)
    (within : sink.limit ≠ 0 → sink.collected.utf8ByteSize ≤ sink.limit) :
    (sink.put piece).limit = sink.limit ∧
      (sink.limit ≠ 0 → (sink.put piece).collected.utf8ByteSize ≤ sink.limit) := by
  unfold put
  split
  · exact ⟨rfl, within⟩
  · split
    · rename_i fits
      refine ⟨rfl, fun limited => ?_⟩
      simpa [OutputSink.fits, limited, String.utf8ByteSize_append] using fits
    · exact ⟨rfl, within⟩

theorem size_putAll_le (limited : limit ≠ 0) (pieces : List String) :
    (putAll limit pieces).collected.utf8ByteSize ≤ limit := by
  suffices later : ∀ {sink : OutputSink}, sink.limit = limit →
      sink.collected.utf8ByteSize ≤ limit →
      (pieces.foldl put sink).collected.utf8ByteSize ≤ limit from later rfl (Nat.zero_le limit)
  induction pieces with
  | nil => exact fun _ within => within
  | cons piece pieces ih =>
      rintro sink rfl within
      obtain ⟨sameLimit, withinNext⟩ := sink.size_put_le piece fun _ => within
      exact ih sameLimit (withinNext limited)

end OutputSink

namespace Script

open OutputSink (Allows took_collect)

/-- A message starts with that of the cause. -/
theorem Fault.exists_message (fault : Fault) :
    ∃ rest, fault.message = fault.cause.message ++ rest := by
  induction fault with
  | «at» cause spot => exact ⟨_, rfl⟩
  | within function fault spot ih =>
      obtain ⟨rest, message⟩ := ih
      exact ⟨_, by rw [Fault.message, message, String.append_assoc, String.append_assoc]; rfl⟩

theorem Stop.isForOutput_of_ending (stop : Stop) (halted : stop.ending = .halted .output) :
    stop.IsForOutput := by
  unfold ending at halted
  split at halted
  · exact nomatch halted
  · exact nomatch halted
  · exact nomatch halted
  · exact nomatch halted
  · exact nomatch halted
  · exact congrArg Cause.halted (Ending.halted.inj halted)
  · split at halted <;> exact nomatch halted

/-- Texts that start differently are different. -/
theorem append_ne_of_take {first second : String} (count : Nat)
    (long : count ≤ first.toList.length) (alsoLong : count ≤ second.toList.length)
    (differ : first.toList.take count ≠ second.toList.take count) (rest other : String) :
    first ++ rest ≠ second ++ other := by
  intro same
  have starts := congrArg (fun text => text.toList.take count) same
  simp only [String.toList_append, List.take_append_of_le_length long,
    List.take_append_of_le_length alsoLong] at starts
  exact differ starts

/-- The message of a limit that is none for the output does not look like one for it. -/
theorem Cause.message_append_ne {cause : Cause} (final : cause.isFinal = true)
    (rest amount : String) :
    cause.message ++ rest ≠ "Script output exceeded " ++ amount ++ " bytes" := by
  rw [String.append_assoc]
  have differs (message : String) (long : 8 ≤ message.toList.length)
      (differ : message.toList.take 8 ≠ "Script output exceeded ".toList.take 8) :
      message ++ rest ≠ "Script output exceeded " ++ (amount ++ " bytes") :=
    append_ne_of_take 8 long (by decide) differ _ _
  cases cause with
  | tooLarge growth =>
      cases growth with
      | text => exact differs "Length of string too large" (by decide) (by decide)
      | list => exact differs "Size of array/BLOB too large" (by decide) (by decide)
      | map => exact differs "Size of object map too large" (by decide) (by decide)
  | tooDeep => exact differs "Stack overflow" (by decide) (by decide)
  | tooManyOperations => exact differs "Too many operations" (by decide) (by decide)
  | halted halt => exact differs "Script terminated" (by decide) (by decide)
  | _ => exact nomatch final

theorem Stop.message_ne_of_ending {stop : Stop} {message : String}
    (limited : stop.ending = .limited message) (amount : String) :
    message ≠ "Script output exceeded " ++ amount ++ " bytes" := by
  unfold ending at limited
  split at limited
  · exact nomatch limited
  · exact nomatch limited
  · exact nomatch limited
  · exact nomatch limited
  · exact nomatch limited
  · exact nomatch limited
  · split at limited
    · rename_i fault _ _ final
      obtain ⟨rest, starts⟩ := fault.exists_message
      rw [← Ending.limited.inj limited, starts]
      exact Cause.message_append_ne final rest amount
    · exact nomatch limited

/-- A program ends, or stops; it stops for the output only when more was printed than is
allowed. -/
theorem Program.run_cases (limits : Limits) (constants : List (String × Value))
    (program : Program) :
    (program.run limits constants).ending = .finished ∨
      ∃ stop : Stop, (program.run limits constants).ending = stop.ending ∧
        (stop.IsForOutput →
          ¬Allows limits.outputBytes.toNat (printed (program.run limits constants).writes)) := by
  unfold Program.run
  dsimp only
  generalize program.simplified limits _ = program
  split
  · exact .inl rfl
  · rename_i stop machine ends
    have accounts :
        Accounts False ((Interpreter.toDepth manyRounds).statements program.statements) :=
      (Interpreter.toDepth_accounts manyRounds).statements _
    have accounted := accounts.isAccounted_of_start ends rfl rfl
    refine .inr ⟨stop, rfl, fun isForOutput => ?_⟩
    have overflowed : (OutputSink.collect limits.outputBytes.toNat
        machine.acts.reverse).overflowed = true :=
      accounted.leadsTo_of_error.isKept ▸ accounted.hasOverflowed isForOutput
    exact (took_collect limits.outputBytes.toNat machine.acts.reverse).overflows overflowed

end Script

namespace Sandbox

open OutputSink (Allows not_allows_iff collect collect_eq_putAll printed_eq_join putAll
  putAll_of_overflowed size_putAll_le took_putAll)

theorem timeFault_ne_outputFault (limits : Limits) : timeFault limits ≠ outputFault limits := by
  intro same
  have message := ScriptFault.limitExceeded.inj same
  rw [String.append_assoc, String.append_assoc] at message
  exact Script.append_ne_of_take 8 (by decide) (by decide) (by decide) _ _ message

/-- A stop that is not for the output is not reported as one. -/
theorem judge_ne_of_stop {limits : Limits} {transcript : Script.Transcript} {stop : Script.Stop}
    (stopped : transcript.ending = stop.ending) (other : ¬stop.IsForOutput)
    (allowed : Allows limits.outputBytes.toNat (printed transcript.writes)) :
    judge limits transcript ≠ .error (outputFault limits) := by
  cases ending : transcript.ending with
  | finished =>
      rw [judge_finished ending allowed]
      exact nofun
  | limited message =>
      have differs := Script.Stop.message_ne_of_ending (stopped.symm.trans ending)
        (toString limits.outputBytes.toNat)
      intro same
      rw [judge, ending] at same
      exact differs (ScriptFault.limitExceeded.inj (Except.error.inj same))
  | halted halt =>
      cases halt with
      | output => exact absurd (stop.isForOutput_of_ending (stopped.symm.trans ending)) other
      | time =>
          intro same
          rw [judge, ending] at same
          exact timeFault_ne_outputFault limits (Except.error.inj same)
  | misread message => simp [judge, ending, outputFault]
  | thrown text => simp [judge, ending, outputFault]
  | failed message => simp [judge, ending, outputFault]
  | crashed message => simp [judge, ending, outputFault]
  | notStarted reason => simp [judge, ending, outputFault]

/-- A run of the standard interpreter that printed what is allowed does not report the limit
of the output. -/
theorem judge_standard_ne_outputFault {limits : Limits} {context : RequestContext}
    {script : String}
    (allowed : Allows limits.outputBytes.toNat
      (printed (Engine.standard limits context script).writes)) :
    judge limits (Engine.standard limits context script) ≠ .error (outputFault limits) := by
  intro judged
  cases read : Script.Program.read limits script with
  | error misreading =>
      have ending : Engine.standard limits context script =
          { writes := [], ending := .misread misreading.message } := by
        rw [Engine.standard, Script.transcript, read]
      rw [ending] at judged
      exact nomatch judged
  | ok program =>
      have ran : Engine.standard limits context script =
          program.run limits [("ctx", .map context.members)] := by
        rw [Engine.standard, Script.transcript, read]
      rw [ran] at judged allowed
      rcases program.run_cases limits [("ctx", .map context.members)] with
        finished | ⟨stop, ending, told⟩
      · rw [judge_finished finished allowed] at judged
        exact nomatch judged
      · exact judge_ne_of_stop ending (fun isForOutput => told isForOutput allowed) allowed judged

theorem isLimited_iff {limits : Limits} :
    limits.outputBytes ≠ 0 ↔ limits.outputBytes.toNat ≠ 0 := by
  rw [ne_eq, ne_eq, ← UInt64.toNat_inj]
  rfl

/-- The limit of the output is exact, and more than it gives nothing.

A sink overflows exactly when there is a limit and the pieces exceed it; from then on it takes
in nothing, not even what would fit.  Until then it holds all there was, and what it holds
never exceeds the limit.  So no run that printed more than the limit succeeds, whatever the
engine, and with the standard one none that kept to the limit reports it. -/
theorem output_limit_is_exact :
    (∀ limit pieces,
      ((putAll limit pieces).overflowed = true ↔
        limit ≠ 0 ∧ limit < (String.join pieces).utf8ByteSize) ∧
      ((putAll limit pieces).overflowed = true →
        ∀ more, putAll limit (pieces ++ more) = putAll limit pieces) ∧
      ((putAll limit pieces).overflowed = false →
        (putAll limit pieces).collected = String.join pieces) ∧
      (limit ≠ 0 → (putAll limit pieces).collected.utf8ByteSize ≤ limit)) ∧
    (∀ limit writes, collect limit writes = putAll limit (writes.flatMap Write.pieces) ∧
      printed writes = String.join (writes.flatMap Write.pieces)) ∧
    (∀ (engine : Engine) limits context script,
      limits.outputBytes ≠ 0 →
      limits.outputBytes.toNat < (printed (engine limits context script).writes).utf8ByteSize →
      (∀ output, judge limits (engine limits context script) ≠ .ok output) ∧
      ((engine limits context script).ending = .finished →
        judge limits (engine limits context script) = .error (outputFault limits)) ∧
      ∀ origin, script ≠ "" → (run engine limits origin script context).error ≠ none) ∧
    ∀ limits context script,
      judge limits (Engine.standard limits context script) = .error (outputFault limits) →
      limits.outputBytes ≠ 0 ∧ limits.outputBytes.toNat <
        (printed (Engine.standard limits context script).writes).utf8ByteSize := by
  refine ⟨fun limit pieces => ?_, fun limit writes => ?_, ?_, ?_⟩
  · have took := took_putAll limit pieces
    exact ⟨took.overflowed_iff, putAll_of_overflowed, fun holds => (took.collects holds).2,
      fun limited => size_putAll_le limited pieces⟩
  · exact ⟨collect_eq_putAll limit writes, printed_eq_join writes⟩
  · intro engine limits context script limited exceeds
    have tooMuch : ¬Allows limits.outputBytes.toNat
        (printed (engine limits context script).writes) :=
      not_allows_iff.mpr ⟨isLimited_iff.mp limited, exceeds⟩
    refine ⟨fun output judged => ?_, fun finished => judge_overflowed finished tooMuch,
      fun origin isSet succeeds => ?_⟩
    · rcases judge_cases limits (engine limits context script) with
        ⟨_, allowed, _⟩ | ⟨_, fault, failed⟩
      · exact tooMuch allowed
      · exact nomatch judged.symm.trans failed
    · have contained := run_contained engine limits origin script context
      exact tooMuch ((contained.succeeds_iff isSet).mp succeeds).2
  · intro limits context script judged
    have exceeds : ¬Allows limits.outputBytes.toNat
        (printed (Engine.standard limits context script).writes) :=
      fun allowed => judge_standard_ne_outputFault allowed judged
    obtain ⟨limited, more⟩ := not_allows_iff.mp exceeds
    exact ⟨isLimited_iff.mpr limited, more⟩

/-- A line of five bytes fits under a limit of five, and its line break does not.  What follows
is not taken in, not even nothing; the script that prints the line fails for its output. -/
theorem line_break_exceeds_limit :
    let limits : Limits := { outputBytes := 5 }
    let script := "print(\"abcde\")"
    (putAll 5 ["abcde", "\n"]).overflowed = true ∧
      putAll 5 (["abcde", "\n"] ++ [""]) = putAll 5 ["abcde", "\n"] ∧
      (putAll 6 ["abcde", "\n"]).collected = "abcde\n" ∧
      (run .standard limits .plain script {}).error ≠ none ∧
      judge limits (Engine.standard limits {} script) = .error (outputFault limits) ∧
      limits.outputBytes.toNat <
        (printed (Engine.standard limits {} script).writes).utf8ByteSize := by
  intro limits script
  obtain ⟨pieces, _, runs, reports⟩ := output_limit_is_exact
  have overflowed : (putAll 5 ["abcde", "\n"]).overflowed = true :=
    (pieces 5 _).1.mpr (by decide)
  have exceeds : limits.outputBytes.toNat <
      (printed (Engine.standard limits {} script).writes).utf8ByteSize := by decide +kernel
  obtain ⟨_, judged, fails⟩ := runs .standard limits {} script (by decide) exceeds
  have reported := judged (by decide +kernel)
  exact ⟨overflowed, (pieces 5 _).2.1 overflowed _, (pieces 6 _).2.2.1 (by decide),
    fails .plain (by decide), reported, (reports limits {} script reported).2⟩

end Sandbox

end PageInjection
