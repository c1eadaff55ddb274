import PageInjection.Proofs.Sandbox.Output
import PageInjection.Script.Evaluate

/-!
# Parts of a run that account for the output

While a script runs, its sink is always what collecting the acts so far leaves.  Once it has
overflowed it stays so, and only an overflow lets a part of the run stop for the output.  Each
way to put parts together keeps this.
-/

namespace PageInjection.Script

variable {α β : Type}

/-- A stop for the output. -/
def Stop.IsForOutput : Stop → Prop
  | .fault found => found.cause = .halted .output
  | _ => False

theorem Fault.cause_moved (spot : Option Spot) (fault : Fault) :
    (fault.moved spot).cause = fault.cause := by
  cases fault <;> rfl

theorem Fault.cause_placed (fault : Fault) (spot : Spot) :
    (fault.placed spot).cause = fault.cause := by
  unfold placed
  split
  · exact fault.cause_moved _
  · rfl

namespace Machine

/-- The sink has taken in the acts so far. -/
def IsKept (limit : Nat) (machine : Machine) : Prop :=
  machine.sink = OutputSink.collect limit machine.acts.reverse

def HasOverflowed (machine : Machine) : Prop :=
  machine.sink.overflowed = true

/-- What a part of a run makes of a machine. -/
structure LeadsTo (limit : Nat) (before after : Machine) : Prop where
  isKept : after.IsKept limit
  hasOverflowed : before.HasOverflowed → after.HasOverflowed

theorem LeadsTo.refl {limit : Nat} {machine : Machine} (isKept : machine.IsKept limit) :
    machine.LeadsTo limit machine :=
  ⟨isKept, id⟩

theorem LeadsTo.trans {limit : Nat} {first second third : Machine}
    (leads : first.LeadsTo limit second) (later : second.LeadsTo limit third) :
    first.LeadsTo limit third :=
  ⟨later.isKept, later.hasOverflowed ∘ leads.hasOverflowed⟩

end Machine

/-- The end of a part of a run accounts for the output: a stop for it means an overflow. -/
inductive IsAccounted (limit : Nat) (before : Machine) : EStateM.Result Stop Machine α → Prop where
  | ok {value : α} {after : Machine} : before.LeadsTo limit after →
      IsAccounted limit before (.ok value after)
  | error {stop : Stop} {after : Machine} : before.LeadsTo limit after →
      (stop.IsForOutput → after.HasOverflowed) → IsAccounted limit before (.error stop after)

namespace IsAccounted

variable {limit : Nat} {before after : Machine} {value : α} {stop : Stop}

theorem leadsTo_of_ok (accounted : IsAccounted limit before (.ok value after)) :
    before.LeadsTo limit after := by
  cases accounted with
  | ok leads => exact leads

theorem leadsTo_of_error
    (accounted : IsAccounted limit before (.error stop after : EStateM.Result Stop Machine α)) :
    before.LeadsTo limit after := by
  cases accounted with
  | error leads _ => exact leads

theorem hasOverflowed
    (accounted : IsAccounted limit before (.error stop after : EStateM.Result Stop Machine α))
    (isForOutput : stop.IsForOutput) : after.HasOverflowed := by
  cases accounted with
  | error _ told => exact told isForOutput

end IsAccounted

theorem IsAccounted.of_leadsTo {limit : Nat} {first second : Machine}
    {result : EStateM.Result Stop Machine α} (accounted : IsAccounted limit second result)
    (leads : first.LeadsTo limit second) : IsAccounted limit first result := by
  cases accounted with
  | ok later => exact .ok (leads.trans later)
  | error later told => exact .error (leads.trans later) told

/-- A part of a run accounts for the output, given what is known of an overflow before. -/
def Accounts (known : Prop) (part : Run α) : Prop :=
  ∀ (setup : Setup) (machine : Machine), machine.IsKept setup.limits.outputBytes.toNat →
    (known → machine.HasOverflowed) →
    IsAccounted setup.limits.outputBytes.toNat machine (part setup machine)

section Bind

variable {part : Run α} {setup : Setup} {machine after : Machine}

theorem run_bind_of_ok {value : α} (ends : part setup machine = .ok value after)
    (next : α → Run β) : (part >>= next) setup machine = next value setup after := by
  change EStateM.bind (part setup) (fun value => next value setup) machine = _
  rw [EStateM.bind, ends]

theorem run_bind_of_error {stop : Stop} (ends : part setup machine = .error stop after)
    (next : α → Run β) : (part >>= next) setup machine = .error stop after := by
  change EStateM.bind (part setup) (fun value => next value setup) machine = _
  rw [EStateM.bind, ends]

/-- Whatever a part of a run ends with has a property. -/
def Gives (P : α → Prop) (part : Run α) : Prop :=
  ∀ setup machine value after, part setup machine = .ok value after → P value

namespace Gives

variable {P : α → Prop}

theorem pure {value : α} (holds : P value) : Gives P (Pure.pure value : Run α) := by
  rintro setup machine _ _ ⟨⟩
  exact holds

theorem fail (cause : Cause) (spot : Spot) : Gives P (Run.fail cause spot : Run α) :=
  nofun

theorem bind {part : Run β} {next : β → Run α} (later : ∀ value, Gives P (next value)) :
    Gives P (part >>= next) := by
  intro setup machine value after ends
  cases first : part setup machine with
  | error stop between => exact nomatch (run_bind_of_error first next).symm.trans ends
  | ok result between =>
      exact later result setup between value after ((run_bind_of_ok first next).symm.trans ends)

end Gives

end Bind

namespace Accounts

variable {known : Prop} {part : Run α}

/-- At the start of a run nothing is printed yet. -/
theorem isAccounted_of_start (accounts : Accounts False part) {setup : Setup} {machine : Machine}
    {result : EStateM.Result Stop Machine α} (ends : part setup machine = result)
    (sink : machine.sink = { limit := setup.limits.outputBytes.toNat }) (acts : machine.acts = []) :
    IsAccounted setup.limits.outputBytes.toNat machine result := by
  subst ends
  refine accounts setup machine ?_ False.elim
  rw [Machine.IsKept, sink, acts]
  rfl

@[simp] theorem pure (value : α) : Accounts known (Pure.pure value : Run α) :=
  fun _ _ isKept _ => .ok (.refl isKept)

theorem throw {stop : Stop} (told : stop.IsForOutput → known) :
    Accounts known (throw stop : Run α) :=
  fun _ _ isKept given => .error (.refl isKept) fun isForOutput => given (told isForOutput)

theorem fail {cause : Cause} (other : cause ≠ .halted .output) (spot : Spot) :
    Accounts known (Run.fail cause spot : Run α) :=
  throw fun isForOutput => absurd isForOutput other

/-- What follows a part may rely on what is known of its value. -/
theorem bind_of_gives {P : α → Prop} {next : α → Run β} (first : Accounts known part)
    (gives : Gives P part) (later : ∀ value, P value → Accounts known (next value)) :
    Accounts known (part >>= next) := by
  intro setup machine isKept given
  have done := first setup machine isKept given
  cases ends : part setup machine with
  | error stop after =>
      rw [ends] at done
      rw [run_bind_of_error ends]
      exact .error done.leadsTo_of_error done.hasOverflowed
  | ok value after =>
      rw [ends] at done
      rw [run_bind_of_ok ends]
      have leads := done.leadsTo_of_ok
      have stillGiven := fun holds => leads.hasOverflowed (given holds)
      have accounts := later value (gives setup machine value after ends)
      exact (accounts setup after leads.isKept stillGiven).of_leadsTo leads

theorem bind {next : α → Run β} (first : Accounts known part)
    (later : ∀ value, Accounts known (next value)) : Accounts known (part >>= next) :=
  first.bind_of_gives (fun _ _ _ _ _ => trivial) fun value _ => later value

theorem map {change : α → β} (first : Accounts known part) : Accounts known (change <$> part) := by
  rw [map_eq_pure_bind]
  exact first.bind fun _ => .pure _

theorem read : Accounts known (read : Run Setup) :=
  fun _ _ isKept _ => .ok (.refl isKept)

theorem get : Accounts known (get : Run Machine) :=
  fun _ _ isKept _ => .ok (.refl isKept)

/-- What follows a look at the machine knows whether it has overflowed. -/
theorem get_bind {next : Machine → Run β}
    (later : ∀ machine : Machine, Accounts (known ∨ machine.HasOverflowed) (next machine)) :
    Accounts known (MonadState.get >>= next) :=
  fun setup machine isKept given =>
    later machine setup machine isKept fun holds => holds.elim given id

theorem ite {condition : Prop} [Decidable condition] {other : Run α}
    (accounts : Accounts known part) (also : Accounts known other) :
    Accounts known (if condition then part else other) := by
  split
  · exact accounts
  · exact also

/-- A step that is there to fail on a condition. -/
theorem check {condition : Prop} [Decidable condition] {failing : Run PUnit}
    {next : PUnit → Run β} (fails : condition → Accounts known failing)
    (later : Accounts known (next ⟨⟩)) :
    Accounts known (if condition then failing >>= next else next ⟨⟩) := by
  split
  · rename_i holds
    exact (fails holds).bind fun _ => later
  · exact later

/-- A change that does not touch the output. -/
theorem modifyGet {change : Machine → β × Machine}
    (sink : ∀ machine, (change machine).2.sink = machine.sink)
    (acts : ∀ machine, (change machine).2.acts = machine.acts) :
    Accounts known (MonadState.modifyGet change : Run β) := by
  intro setup machine isKept _
  refine .ok ⟨?_, fun overflowed => ?_⟩
  · rw [Machine.IsKept, sink, acts]
    exact isKept
  · exact (congrArg OutputSink.overflowed (sink machine)).trans overflowed

theorem modify {change : Machine → Machine} (sink : ∀ machine, (change machine).sink = machine.sink)
    (acts : ∀ machine, (change machine).acts = machine.acts) :
    Accounts known (modify change : Run Unit) :=
  modifyGet sink acts

/-- Counting an operation is where a run that has overflowed stops for the output. -/
theorem tick (spot : Spot) : Accounts known (Run.tick spot) := by
  unfold Run.tick
  refine read.bind fun setup => ?_
  refine bind (modify (fun _ => rfl) fun _ => rfl) fun _ => get_bind fun machine => ?_
  dsimp only
  refine check (fun _ => fail (by nofun) spot) (check ?_ ?_)
  · exact fun overflowed => throw fun _ => .inr overflowed
  · split
    · exact fail (by nofun) spot
    · exact pure _

theorem print (act : Write) : Accounts known (Run.print act) := by
  intro setup machine isKept _
  refine .ok ⟨?_, fun overflowed => ?_⟩
  · change machine.sink.write act = OutputSink.collect _ (act :: machine.acts).reverse
    rw [List.reverse_cons, OutputSink.collect, List.foldl_append, isKept]
    rfl
  · change (machine.sink.write act).overflowed = true
    rwa [OutputSink.write_of_overflowed overflowed]

theorem remark (note : DebugNote) : Accounts known (Run.remark note) :=
  modify (fun _ => rfl) fun _ => rfl

theorem display (value : Value) : Accounts known (Run.display value) :=
  get.bind fun _ => pure _

theorem checkGrowth (size : Value.Size) (spot : Spot) :
    Accounts known (Interpreter.checkGrowth size spot) := by
  unfold Interpreter.checkGrowth
  refine read.bind fun setup => ?_
  dsimp only
  refine check (fun _ => fail (by nofun) spot) (check (fun _ => fail (by nofun) spot) ?_)
  split
  · exact fail (by nofun) spot
  · exact pure _

theorem checkSize (value : Value) (spot : Spot) : Accounts known (Run.checkSize value spot) := by
  unfold Run.checkSize
  split
  · exact checkGrowth _ spot
  · exact checkGrowth _ spot
  · exact checkGrowth _ spot
  · exact pure _

theorem flat (value : Value) : Accounts known (Run.flat value) := by
  unfold Run.flat
  split
  · exact get.bind fun _ => pure _
  · exact pure _

theorem find? (name : String) : Accounts known (Run.find? name) :=
  get.bind fun _ => pure _

theorem variableAt (place : Nat) : Accounts known (Run.variableAt place) :=
  get.bind fun _ => pure _

theorem store (place : Nat) (value : Value) : Accounts known (Run.store place value) := by
  refine modify (fun machine => ?_) fun machine => ?_
  · split <;> rfl
  · split <;> rfl

theorem takeOut (place : Nat) : Accounts known (Run.takeOut place) :=
  modifyGet (fun _ => rfl) fun _ => rfl

theorem holdsText (place : Nat) : Accounts known (Run.holdsText place) := by
  refine (variableAt place).bind fun entry => ?_
  split <;> exact pure _

theorem appendText (place : Nat) (tail : String) (spot : Spot) :
    Accounts known (Run.appendText place tail spot) := by
  unfold Run.appendText
  refine read.bind fun setup => (variableAt place).bind fun entry => ?_
  dsimp only
  refine check (fun _ => fail (by nofun) spot) ((takeOut place).bind fun value => ?_)
  split <;> exact store _ _

theorem declare (name : String) (value : Value) (isConstant : Bool) :
    Accounts known (Run.declare name value isConstant) :=
  modify (fun _ => rfl) fun _ => rfl

theorem forget (count : Nat) : Accounts known (Run.forget count) :=
  modify (fun _ => rfl) fun _ => rfl

theorem share (place : Nat) : Accounts known (Run.share place) := by
  refine (variableAt place).bind fun entry => ?_
  split
  · exact pure _
  · exact get.bind fun _ => bind (modify (fun _ => rfl) fun _ => rfl) fun _ => pure _

theorem function? (name : String) (arity : Nat) : Accounts known (Run.function? name arity) :=
  read.bind fun _ => pure _

/-- A part whose faults get a spot. -/
theorem placed (spot : Spot) (accounts : Accounts known part) :
    Accounts known (Run.placed spot part) := by
  intro setup machine isKept given
  have done := accounts setup machine isKept given
  unfold Run.placed
  split
  · rename_i fault after ends
    rw [ends] at done
    refine .error done.leadsTo_of_error fun isForOutput => done.hasOverflowed ?_
    exact (fault.cause_placed spot).symm.trans isForOutput
  · exact done

/-- What follows a part whose end is taken as a value knows that the output overflowed where
the part stopped for it. -/
theorem attempt_bind {next : Except Stop α → Run β} (accounts : Accounts known part)
    (ended : ∀ value, Accounts known (next (.ok value)))
    (stopped : ∀ stop : Stop, Accounts (known ∨ stop.IsForOutput) (next (.error stop))) :
    Accounts known (Run.attempt part >>= next) := by
  intro setup machine isKept given
  have done := accounts setup machine isKept given
  cases ends : part setup machine with
  | ok value after =>
      have attempted : Run.attempt part setup machine = .ok (.ok value) after := by
        rw [Run.attempt, ends]
      rw [ends] at done
      rw [run_bind_of_ok attempted]
      have leads := done.leadsTo_of_ok
      have stillGiven := fun holds => leads.hasOverflowed (given holds)
      exact (ended value setup after leads.isKept stillGiven).of_leadsTo leads
  | error stop after =>
      have attempted : Run.attempt part setup machine = .ok (.error stop) after := by
        rw [Run.attempt, ends]
      rw [ends] at done
      rw [run_bind_of_ok attempted]
      have leads := done.leadsTo_of_error
      have stillGiven : known ∨ stop.IsForOutput → after.HasOverflowed :=
        fun holds => holds.elim (fun holds => leads.hasOverflowed (given holds)) done.hasOverflowed
      exact (stopped stop setup after leads.isKept stillGiven).of_leadsTo leads

section Lists

variable {γ : Type}

theorem mapM {each : γ → Run β} {items : List γ} (accounts : ∀ item, Accounts known (each item)) :
    Accounts known (items.mapM each) := by
  induction items with
  | nil => exact pure _
  | cons item items ih =>
      rw [List.mapM_cons]
      exact (accounts item).bind fun _ => ih.bind fun _ => pure _

theorem foldlM {step : β → γ → Run β} {items : List γ}
    (accounts : ∀ result item, Accounts known (step result item)) (start : β) :
    Accounts known (items.foldlM step start) := by
  induction items generalizing start with
  | nil => exact pure _
  | cons item items ih =>
      rw [List.foldlM_cons]
      exact (accounts start item).bind ih

theorem filterM {test : γ → Run Bool} {items : List γ}
    (accounts : ∀ item, Accounts known (test item)) : Accounts known (items.filterM test) := by
  suffices gathers : ∀ done, Accounts known (items.filterAuxM test done) from
    (gathers []).bind fun _ => pure _
  induction items with
  | nil => exact fun _ => pure _
  | cons item items ih =>
      intro done
      rw [List.filterAuxM]
      exact (accounts item).bind fun _ => ih _

end Lists

end Accounts

end PageInjection.Script
