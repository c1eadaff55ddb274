import PageInjection.Sandbox.Sink

/-!
# What a sink collects

A sink that has not overflowed holds everything that was printed, in order; it
overflows exactly when there is a limit and more than that was printed.  One
write keeps this, and so does every sequence of writes.
-/

namespace PageInjection

/-- The text of one act of printing. -/
def Write.text : Write → String
  | .echo text => text
  | .print line => line ++ "\n"

/-- Everything that was printed, in order. -/
def printed : List Write → String
  | [] => ""
  | write :: writes => write.text ++ printed writes

namespace OutputSink

theorem put_of_overflowed {sink : OutputSink} (overflowed : sink.overflowed = true)
    (text : String) : sink.put text = sink :=
  if_pos overflowed

/-- A sink that has overflowed takes nothing more, not even what would fit. -/
theorem write_of_overflowed {sink : OutputSink} (overflowed : sink.overflowed = true)
    (act : Write) : sink.write act = sink := by
  cases act with
  | echo text => exact put_of_overflowed overflowed text
  | print line => rw [write, put_of_overflowed overflowed, put_of_overflowed overflowed]

/-- Whether a limit lets a text through; zero is no limit. -/
def Allows (limit : Nat) (text : String) : Prop :=
  limit = 0 ∨ text.utf8ByteSize ≤ limit

/-- The sink is what taking in a text leaves. -/
structure Took (limit : Nat) (text : String) (sink : OutputSink) : Prop where
  limit_eq : sink.limit = limit
  collects : sink.overflowed = false → Allows limit text ∧ sink.collected = text
  overflows : sink.overflowed = true → ¬ Allows limit text

theorem Took.start (limit : Nat) : Took limit "" { limit } where
  limit_eq := rfl
  collects _ := ⟨.inr (Nat.zero_le limit), rfl⟩
  overflows overflowed := absurd overflowed Bool.false_ne_true

private theorem Allows.of_append {limit : Nat} {text piece : String}
    (allowed : Allows limit (text ++ piece)) : Allows limit text := by
  rcases allowed with unlimited | small
  · exact .inl unlimited
  · rw [String.utf8ByteSize_append] at small
    exact .inr (Nat.le_trans (Nat.le_add_right _ _) small)

/-- One more piece of text. -/
theorem Took.put {limit : Nat} {text : String} {sink : OutputSink}
    (took : Took limit text sink) (piece : String) :
    Took limit (text ++ piece) (sink.put piece) := by
  unfold OutputSink.put
  by_cases overflowed : sink.overflowed = true
  · rw [if_pos overflowed]
    exact ⟨took.limit_eq, fun holds => absurd (overflowed.symm.trans holds) (by decide),
      fun _ allowed => took.overflows overflowed allowed.of_append⟩
  · have held := took.collects (Bool.not_eq_true _ ▸ overflowed)
    have fits_iff : sink.fits piece = true ↔ Allows limit (text ++ piece) := by
      simp [fits, Allows, took.limit_eq, held.2, String.utf8ByteSize_append]
    rw [if_neg overflowed]
    split
    · rename_i fits
      exact ⟨took.limit_eq, fun _ => ⟨fits_iff.mp fits, by rw [held.2]⟩,
        fun holds => absurd holds overflowed⟩
    · rename_i exceeds
      exact ⟨took.limit_eq, fun holds => absurd holds.symm Bool.false_ne_true,
        fun _ allowed => exceeds (fits_iff.mpr allowed)⟩

theorem Took.write {limit : Nat} {text : String} {sink : OutputSink}
    (took : Took limit text sink) (act : Write) :
    Took limit (text ++ act.text) (sink.write act) := by
  cases act with
  | echo piece => exact took.put piece
  | print line =>
      have both := (took.put line).put "\n"
      rwa [String.append_assoc] at both

theorem Took.foldl {limit : Nat} {text : String} {sink : OutputSink}
    (took : Took limit text sink) (writes : List Write) :
    Took limit (text ++ printed writes) (writes.foldl OutputSink.write sink) := by
  induction writes generalizing text sink with
  | nil => simpa [printed] using took
  | cons act writes ih =>
      have later := ih (took.write act)
      rwa [String.append_assoc] at later

/-- A whole run takes in everything that was printed. -/
theorem took_collect (limit : Nat) (writes : List Write) :
    Took limit (printed writes) (collect limit writes) := by
  have all := (Took.start limit).foldl writes
  rwa [String.empty_append] at all

end OutputSink

end PageInjection
