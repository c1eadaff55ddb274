import Mathlib.Algebra.Group.Nat.Defs
import PageInjection.Proofs.Command.Outcome
import PageInjection.Proofs.Record.Exact

/-!
# Times of writes

A record ends with the time of its write.  The time changes nothing about the fragment that
is read from the record, however long its text may be, and a command that writes at another
time gives the same answer and leaves the same database but for that time.
-/

namespace PageInjection

namespace Record

theorem length_putNumber (width value : Nat) : (putNumber width value).length = width := by
  induction width generalizing value with
  | zero => rfl
  | succ width ih => rw [putNumber, List.length_cons, ih]

/-- A number that is too large for its bytes is cut down to them. -/
theorem putNumber_mod (width value : Nat) :
    putNumber width (value % 256 ^ width) = putNumber width value := by
  induction width generalizing value with
  | zero => rfl
  | succ width ih =>
      rw [putNumber, putNumber, Nat.pow_succ', Nat.mod_mul_right_mod, Nat.mod_mul_right_div_self,
        ih]

theorem fits_mod (width value : Nat) : Fits width (value % 256 ^ width) := by
  induction width generalizing value with
  | zero => exact Nat.mod_one value
  | succ width ih =>
      rw [Fits, Nat.pow_succ', Nat.mod_mul_right_div_self]
      exact ih _

theorem takeNumber_putNumber (width value : Nat) (rest : List UInt8) :
    takeNumber width (putNumber width value ++ rest) = .ok (value % 256 ^ width, rest) :=
  takeNumber_eq_ok_iff.mpr ⟨fits_mod width value, by rw [putNumber_mod]⟩

theorem exists_takeNumber_eq {width : Nat} {bytes : List UInt8} (enough : width ≤ bytes.length) :
    ∃ taken, takeNumber width bytes = .ok taken := by
  induction width generalizing bytes with
  | zero => exact ⟨_, rfl⟩
  | succ width ih =>
      cases bytes with
      | nil => exact absurd enough (by simp)
      | cons byte bytes =>
          obtain ⟨taken, front⟩ := ih (Nat.le_of_succ_le_succ enough)
          rw [takeNumber, front]
          exact ⟨_, rfl⟩

/-- Of a text that was put, bytes are taken that are its own, whatever follows it. -/
theorem exists_takeText_eq (text : String) : ∃ taken : Except Fault (String × List UInt8),
    ∀ rest, takeText (putText text ++ rest) =
      taken.map fun (found, left) => (found, left ++ rest) := by
  -- The length is written in eight bytes, so that of a longer text less is taken.
  let bytes := Text.encode text.toList
  let length := bytes.length % 256 ^ 8
  have within : length ≤ bytes.length := Nat.mod_le _ _
  refine ⟨((Text.decode (bytes.take length)).mapError .notUtf8).map fun found =>
    (String.ofList found, bytes.drop length), fun rest => ?_⟩
  have enough : ¬ (bytes ++ rest).length < length := by
    rw [List.length_append]
    omega
  have front : takeNumber 8 (putText text ++ rest) = .ok (length, bytes ++ rest) := by
    rw [putText, List.append_assoc, takeNumber_putNumber]
  simp only [takeText, front, bind, Except.bind, enough, if_false,
    List.take_append_of_le_length within, List.drop_append_of_le_length within]
  cases Text.decode (bytes.take length) <;> rfl

/-- The fragment that is read from a record is that of its kind, its scope and its text. -/
theorem fragment_readStored (fragment : Fragment) (time : Int64) :
    (readStored (putStored ⟨fragment, time⟩)).map (·.fragment) =
      (readText (putText fragment.content)).map fun content =>
        ⟨fragment.kind, fragment.scope, content⟩ := by
  obtain ⟨taken, takenText⟩ := exists_takeText_eq fragment.content
  have kind (rest : List UInt8) := takeKind_eq_ok_iff.mpr (rfl : putKind fragment.kind ++ rest = _)
  have scope (rest : List UInt8) :=
    takeScope_eq_ok_iff.mpr (rfl : putScope fragment.scope ++ rest = _)
  have alone := takenText []
  rw [List.append_nil] at alone
  simp only [readStored, takeStored, putStored, List.append_assoc, kind, scope, takenText, readText,
    alone, bind, Except.bind]
  cases taken with
  | error fault => rfl
  | ok taken =>
      obtain ⟨found, left⟩ := taken
      have enough : 8 ≤ (left ++ putTime time).length := by
        rw [List.length_append, putTime, length_putNumber]
        exact Nat.le_add_left _ _
      obtain ⟨_, last⟩ := exists_takeNumber_eq enough
      simp [Except.map, takeTime, last, bind, Except.bind, pure, Except.pure]

end Record

namespace Database

/-- The same database, but for the time of one record. -/
inductive SameButTime : Database → Database → Prop where
  | refl (database : Database) : SameButTime database database
  | record (before : List (String × List UInt8)) (key : String) (fragment : Fragment)
      (time other : Int64) (after : List (String × List UInt8)) :
      SameButTime ⟨before ++ (key, Record.putStored ⟨fragment, time⟩) :: after⟩
        ⟨before ++ (key, Record.putStored ⟨fragment, other⟩) :: after⟩

/-- Where an entry is put does not depend on its bytes. -/
theorem exists_place_eq (key : String) (entries : List (String × List UInt8)) :
    ∃ before after, ∀ bytes, place key bytes entries = before ++ (key, bytes) :: after := by
  induction entries with
  | nil => exact ⟨[], [], fun bytes => rfl⟩
  | cons entry entries ih =>
      obtain ⟨head, old⟩ := entry
      obtain ⟨before, after, placed⟩ := ih
      cases first : Text.byteLt key head with
      | true => exact ⟨[], (head, old) :: entries, fun bytes => by simp [place, first]⟩
      | false => exact ⟨(head, old) :: before, after, fun bytes => by simp [place, first, placed]⟩

variable (database : Database) (time other : Int64) (fragment : Fragment)

theorem put_sameButTime :
    (database.put time fragment).SameButTime (database.put other fragment) := by
  unfold put
  split
  · exact .refl _
  · obtain ⟨before, after, placed⟩ :=
      exists_place_eq fragment.slot.key (database.erase fragment.slot.key).entries
    rw [insert, insert, placed, placed]
    exact .record _ _ _ _ _ _

/-- What is read of a fragment that was put does not depend on the time. -/
theorem fragment_record_put :
    ((database.put time fragment).record fragment.slot).map (Option.map (·.fragment)) =
      ((database.put other fragment).record fragment.slot).map (Option.map (·.fragment)) := by
  unfold put
  split
  · rfl
  · have found (time : Int64) :
        ((database.insert fragment.slot.key (Record.putStored ⟨fragment, time⟩)).record
          fragment.slot).map (Option.map (·.fragment)) =
        (decoded ((Record.readStored (Record.putStored ⟨fragment, time⟩)).map
          (·.fragment))).map some := by
      simp only [record, get?_insert, if_true]
      cases Record.readStored (Record.putStored ⟨fragment, time⟩) <;> rfl
    rw [found, found, Record.fragment_readStored, Record.fragment_readStored]

end Database

/-- The answer of a command that sets a slot does not tell the time. -/
theorem Report.stored_timeless (slot : Slot) (read : Except StoreFault (Option StoredFragment)) :
    (read.mapError CommandFault.store).map (Report.stored slot) =
      ((read.map (Option.map (·.fragment))).mapError CommandFault.store).map fun found =>
        Report.stored slot (found.map (⟨·, 0⟩)) := by
  rcases read with fault | _ | record <;> rfl

namespace Command

variable (setting : CommandSetting) (other : Int64) (database : Database)

theorem run_put (slot : Slot) (source : ContentSource) :
    (put setting slot source).run database =
      match content setting source with
      | .error fault => (.error fault, database)
      | .ok text =>
          let written := database.put setting.now ⟨slot.kind, slot.scope, text⟩
          (((written.record slot).mapError CommandFault.store).map (Report.stored slot),
            written) := by
  unfold put
  rw [CommandRun.run_bind, CommandRun.run_liftExcept]
  cases content setting source with
  | error fault => rfl
  | ok text =>
      simp only [CommandRun.run_modify_bind, CommandRun.run_reading_bind_pure]

theorem put_at_other_time (slot : Slot) (source : ContentSource) :
    ((put setting slot source).run database).1 =
        ((put { setting with now := other } slot source).run database).1 ∧
      ((put setting slot source).run database).2.SameButTime
        ((put { setting with now := other } slot source).run database).2 := by
  have sameText : content { setting with now := other } source = content setting source := by
    cases source <;> rfl
  rw [run_put, run_put, sameText]
  cases content setting source with
  | error fault => exact ⟨rfl, .refl _⟩
  | ok text =>
      refine ⟨?_, database.put_sameButTime _ _ _⟩
      have same := database.fragment_record_put setting.now other ⟨slot.kind, slot.scope, text⟩
      dsimp only
      rw [Report.stored_timeless]
      refine .trans ?_ (Report.stored_timeless slot _).symm
      exact congrArg (fun read => (Except.mapError CommandFault.store read).map _) same

/-- At another time a command answers the same and leaves the same but for that time. -/
theorem outcome_at_other_time (command : Command) :
    (command.outcome setting database).1 =
        (command.outcome { setting with now := other } database).1 ∧
      (command.outcome setting database).2.SameButTime
        (command.outcome { setting with now := other } database).2 := by
  cases command with
  | setGlobal kind source => exact put_at_other_time setting other database _ source
  | setResource id source => exact put_at_other_time setting other database _ source
  | check rules request => cases rules <;> exact ⟨rfl, .refl _⟩
  | _ => exact ⟨rfl, .refl _⟩

end Command

end PageInjection
