import PageInjection.Proofs.Script.Accounts

/-!
# The library accounts for the output

No operator and no function of the library stops for the output by itself.  Those that call
back account for it as far as the interpreter does.
-/

namespace PageInjection.Script

namespace Operator

theorem checked_ne {value : Int} {cause : Cause} (other : cause ≠ .halted .output) :
    checked value cause ≠ .error (.halted .output) := by
  unfold checked
  split
  · exact nofun
  · exact fun same => other (Except.error.inj same)

theorem power_ne (left right : Int) : power left right ≠ .error (.halted .output) := by
  unfold power
  split
  · exact nofun
  split
  · exact nofun
  split
  · exact nofun
  split
  · exact nofun
  · exact checked_ne nofun

theorem shift_ne (toLeft : Bool) (value amount : Int) :
    shift toLeft value amount ≠ .error (.halted .output) := by
  have moved (toLeft : Bool) (amount : Int) :
      moveBits toLeft value amount ≠ .error (.halted .output) := by
    unfold moveBits
    split
    · split <;> exact nofun
    · split <;> exact nofun
  unfold shift
  split <;> exact moved _ _

theorem some_ne {outcome : Outcome} (other : outcome ≠ .error (.halted .output)) :
    some outcome ≠ some (.error (.halted .output)) :=
  fun same => other (Option.some.inj same)

theorem onInts_ne (symbol : String) (left right : Int) :
    onInts symbol left right ≠ some (.error (.halted .output)) := by
  unfold onInts
  split
  · exact some_ne (checked_ne nofun)
  · exact some_ne (checked_ne nofun)
  · exact some_ne (checked_ne nofun)
  · refine some_ne ?_
    split
    · exact nofun
    · exact checked_ne nofun
  · refine some_ne ?_
    dsimp only
    split <;> exact nofun
  · exact some_ne (power_ne left right)
  · exact some_ne (shift_ne true left right)
  · exact some_ne (shift_ne false left right)
  all_goals exact nofun

theorem onFloats_ne (symbol : String) (left right : Float) :
    onFloats symbol left right ≠ some (.error (.halted .output)) := by
  unfold onFloats
  split <;> exact nofun

theorem compared_ne (symbol : String) (isLess isSame : Bool) :
    compared symbol isLess isSame ≠ some (.error (.halted .output)) := by
  unfold compared
  split <;> exact nofun

theorem onTexts_ne (symbol left right : String) :
    onTexts symbol left right ≠ some (.error (.halted .output)) := by
  unfold onTexts
  split
  · exact nofun
  · exact nofun
  · exact compared_ne _ _ _

theorem onBools_ne (symbol : String) (left right : Bool) :
    onBools symbol left right ≠ some (.error (.halted .output)) := by
  unfold onBools
  split
  · exact nofun
  · exact nofun
  · exact nofun
  · exact compared_ne _ _ _

theorem differing_ne (symbol : String) :
    plain?.differing symbol ≠ some (.error (.halted .output)) := by
  unfold plain?.differing
  split <;> exact nofun

/-- An operator between plain values never stops for the output. -/
theorem plain?_ne (symbol : String) (left right : Value) :
    plain? symbol left right ≠ some (.error (.halted .output)) := by
  unfold plain?
  split
  · exact onInts_ne _ _ _
  · exact onFloats_ne _ _ _
  · exact onFloats_ne _ _ _
  · split
    · exact nofun
    · exact onFloats_ne _ _ _
  · exact onBools_ne _ _ _
  · exact onTexts_ne _ _ _
  · split
    · exact onTexts_ne _ _ _
    · exact compared_ne _ _ _
  · split
    · exact onTexts_ne _ _ _
    · exact compared_ne _ _ _
  · split
    · exact onTexts_ne _ _ _
    · exact compared_ne _ _ _
  · cases found : compared symbol false true with
    | none => exact nofun
    | some outcome =>
        refine some_ne ?_
        split
        · exact fun same => compared_ne symbol false true (found.trans (congrArg some same))
        · exact nofun
  · split
    · exact nofun
    · exact differing_ne _
  · split
    · exact nofun
    · exact differing_ne _
  · split
    · split <;> exact nofun
    · exact differing_ne _
  · exact nofun
  · exact nofun
  · exact nofun
  · exact nofun
  · exact differing_ne _

theorem sign?_ne (symbol : String) (value : Value) :
    sign? symbol value ≠ some (.error (.halted .output)) := by
  unfold sign?
  split
  · exact some_ne (checked_ne nofun)
  all_goals exact nofun

end Operator

/-- A function of the library accounts for the output. -/
def Native.Accounts : Native → Prop
  | .reads run => ∀ known, Script.Accounts known run
  | .writes run => ∀ known, Script.Accounts known run

/-- What is found in the library accounts for the output. -/
def FoundAccounts : Option Native → Prop
  | none => True
  | some native => native.Accounts

namespace FoundAccounts

@[simp] theorem none : FoundAccounts none :=
  trivial

theorem reads {run : Run Value} (accounts : ∀ known, Accounts known run) :
    FoundAccounts (some (.reads run)) :=
  accounts

theorem writes {run : Run (Value × Value)} (accounts : ∀ known, Accounts known run) :
    FoundAccounts (some (.writes run)) :=
  accounts

@[simp] theorem value (value : Value) : FoundAccounts (Library.value value) :=
  reads fun _ => .pure _

@[simp] theorem change (result new : Value) : FoundAccounts (Library.change result new) :=
  writes fun _ => .pure _

theorem outcome {outcome : Except Cause Value} (other : outcome ≠ .error (.halted .output))
    (spot : Spot) : FoundAccounts (Library.outcome outcome spot) := by
  refine reads fun known => ?_
  split
  · exact .pure _
  · rename_i cause
    exact .fail (fun same => other (congrArg Except.error same)) spot

theorem orElse {first second : Option Native} (accounts : FoundAccounts first)
    (also : FoundAccounts second) : FoundAccounts (first <|> second) := by
  cases first with
  | none => exact also
  | some native => exact accounts

/-- Functions that are there for some arguments only. -/
theorem bind {α : Type} {argument : Option α} {next : α → Option Native}
    (accounts : ∀ value, FoundAccounts (next value)) : FoundAccounts (argument >>= next) := by
  cases argument with
  | none => exact .none
  | some value => exact accounts value

theorem ite {condition : Prop} [Decidable condition] {first second : Option Native}
    (accounts : FoundAccounts first) (also : FoundAccounts second) :
    FoundAccounts (if condition then first else second) := by
  split
  · exact accounts
  · exact also

end FoundAccounts

namespace Library

theorem cut_ne (number : Float) : cut number ≠ .error (.halted .output) := by
  unfold cut
  dsimp only
  split
  · exact nofun
  · exact Operator.checked_ne nofun

theorem ofInt_accounts (name : String) (number : Int) (spot : Spot) :
    FoundAccounts (ofInt name number spot) := by
  unfold ofInt
  split
  · exact .outcome (Operator.checked_ne (by nofun)) spot
  all_goals simp

theorem ofFloat_accounts (name : String) (number : Float) (spot : Spot) :
    FoundAccounts (ofFloat name number spot) := by
  unfold ofFloat
  dsimp only
  split
  all_goals try simp only [FoundAccounts.value, FoundAccounts.none]
  exact .outcome (cut_ne _) spot

theorem readInt_ne (text : String) (base : Nat) : readInt text base ≠ .error (.halted .output) := by
  unfold readInt
  dsimp only
  repeat' split
  all_goals exact nofun

theorem readFloat_ne (text : String) : readFloat text ≠ .error (.halted .output) := by
  unfold readFloat
  dsimp only
  split
  · exact nofun
  · split <;> exact nofun

theorem pick_accounts (takesGreater : Bool) (left right : Value) :
    FoundAccounts (pick takesGreater left right) :=
  .bind fun _ => .value _

theorem stepped_accounts (first last step : Int) (spot : Spot) :
    FoundAccounts (stepped first last step spot) :=
  .ite (.reads fun _ => .throw (by nofun)) (.value _)

theorem ofRange_accounts (name : String) (first last : Int) (isInclusive : Bool)
    (rest : List Value) : FoundAccounts (ofRange name first last isInclusive rest) := by
  unfold ofRange
  split
  all_goals simp

theorem numbers_accounts (name : String) (arguments : List Value) (spot : Spot) :
    FoundAccounts (numbers name arguments spot) := by
  unfold numbers
  split
  · exact pick_accounts _ _ _
  · exact pick_accounts _ _ _
  · exact .value _
  · exact stepped_accounts _ _ _ _
  · exact stepped_accounts _ _ _ _
  · exact .outcome (readInt_ne _ _) spot
  · exact .ite (.outcome (readInt_ne _ _) spot) (.outcome (by nofun) spot)
  · exact .outcome (readFloat_ne _) spot
  · exact .value _
  · exact .value _
  · exact .value _
  · exact .value _
  · exact .value _
  · exact ofInt_accounts _ _ _
  · exact ofFloat_accounts _ _ _
  · exact ofRange_accounts _ _ _ _ _
  · split <;> simp
  · exact .none

theorem readText_accounts (name text : String) (rest : List Value) :
    FoundAccounts (readText name text rest) := by
  unfold readText
  dsimp only
  split
  all_goals try simp only [FoundAccounts.value, FoundAccounts.none]
  -- What is left wants a part that is a text or a letter.
  all_goals exact .bind fun _ => .value _

theorem writeText_accounts (name text : String) (rest : List Value) :
    FoundAccounts (writeText name text rest) := by
  unfold writeText
  dsimp only
  split
  all_goals try simp only [FoundAccounts.change, FoundAccounts.none]
  · exact .bind fun _ => .bind fun _ => .change _ _
  · exact .bind fun _ => .change _ _
  · exact .bind fun _ => .change _ _
  · exact .ite (.change _ _) (.change _ _)

theorem ofLetter_accounts (name : String) (c : Char) : FoundAccounts (ofLetter name c) := by
  unfold ofLetter
  split
  all_goals simp

theorem texts_accounts (name : String) (arguments : List Value) :
    FoundAccounts (texts name arguments) := by
  unfold texts
  split
  · exact (readText_accounts _ _ _).orElse (writeText_accounts _ _ _)
  · exact ofLetter_accounts _ _
  · exact .none

theorem readList_accounts (name : String) (items : Array Value) (rest : List Value) :
    FoundAccounts (readList name items rest) := by
  unfold readList
  dsimp only
  split
  all_goals simp

theorem writeList_accounts (name : String) (items : Array Value) (rest : List Value) (spot : Spot) :
    FoundAccounts (writeList name items rest spot) := by
  have sorted (direction : List Value) (name : String) :
      FoundAccounts (if haveOneType items then Library.change .unit (.list direction.toArray)
        else some <| .writes <| Run.fail
          (.noFunction (name ++ "() cannot be called with elements of different types")) spot) :=
    .ite (.change _ _) (.writes fun _ => .fail (by nofun) spot)
  unfold writeList
  dsimp only
  split
  all_goals try simp only [FoundAccounts.change, FoundAccounts.none]
  · exact .ite (.change _ _) (.change _ _)
  · exact sorted _ _
  · exact sorted _ _
  · exact .ite (.change _ _) (.change _ _)
  · exact .ite (.change _ _) (.change _ _)

end Library

/-- An interpreter accounts for the output. -/
structure Interpreter.Accounts (interpreter : Interpreter) : Prop where
  expression : ∀ {known} expr, Script.Accounts known (interpreter.expression expr)
  statements : ∀ {known} statements, Script.Accounts known (interpreter.statements statements)
  call : ∀ {known} function this arguments spot,
    Script.Accounts known (interpreter.call function this arguments spot)
  native : ∀ {known} name arguments spot,
    Script.Accounts known (interpreter.native name arguments spot)

namespace Library

variable {self : Interpreter} (accounts : self.Accounts) {known : Prop}

include accounts

theorem invoke_accounts (function : Value) (this : Option Value) (arguments : List Value)
    (spot : Spot) : Accounts known (invoke self function this arguments spot) := by
  unfold invoke
  split
  · refine (Accounts.function? _ _).bind fun found => ?_
    split
    · exact accounts.call _ _ _ _
    · exact accounts.native _ _ _
  · exact .fail (by nofun) spot

omit accounts in
theorem callFirst_cons_cons (name : String) (spot : Spot) (arguments other : List Value)
    (others : List (List Value)) (setup : Setup) (machine : Machine) :
    callFirst self name spot (arguments :: other :: others) setup machine =
      match self.native name arguments spot setup machine with
      | .error (.fault (.at (.noFunction missing) place)) after =>
          if missing == signature name arguments then
            callFirst self name spot (other :: others) setup machine
          else .error (.fault (.at (.noFunction missing) place)) after
      | result => result :=
  rfl

theorem callFirst_accounts (name : String) (spot : Spot) (choices : List (List Value)) :
    Accounts known (callFirst self name spot choices) := by
  induction choices with
  | nil => exact .fail (by nofun) spot
  | cons arguments others ih =>
      cases others with
      | nil => exact accounts.native _ _ _
      | cons other others =>
          intro setup machine isKept given
          have done := accounts.native name arguments spot setup machine isKept given
          rw [callFirst_cons_cons]
          split
          · split
            · exact ih setup machine isKept given
            · rename_i ends _
              exact ends ▸ done
          · exact done

theorem visit_accounts (function : Value) (before : List Value) (item : Value)
    (extra : List Value) (spot : Spot) :
    Accounts known (visit self function before item extra spot) := by
  have invoked := @invoke_accounts self accounts known
  unfold visit
  have arities : Accounts known (arities function) := by
    unfold Library.arities
    split
    · exact Accounts.read.bind fun _ => .pure _
    · exact .pure _
  refine arities.bind fun arities => ?_
  dsimp only
  split
  · exact invoked _ _ _ _
  split
  · exact invoked _ _ _ _
  split
  · exact invoked _ _ _ _
  split
  · exact invoked _ _ _ _
  split
  · exact callFirst_accounts accounts _ _ _
  · exact invoked _ _ _ _

theorem apply_accounts (function : Value) (before : List Value) (item : Value)
    (extra : List Value) (spot : Spot) :
    Accounts known (apply self function before item extra spot) :=
  (visit_accounts accounts _ _ _ _ _).bind fun _ => .pure _

omit accounts in
theorem firstOf_accounts {α β : Type} {test : α → Run (Option β)}
    (tests : ∀ item, Accounts known (test item)) (items : List α) :
    Accounts known (firstOf test items) := by
  induction items with
  | nil => exact .pure _
  | cons item items ih =>
      refine (tests item).bind fun found => ?_
      split
      · exact .pure _
      · exact ih

/-- A comparison that fails says no, and does not stop for the output. -/
theorem ordered_accounts (function : Value) (spot : Spot) (left right : Value) :
    Accounts known (ordered self function spot left right) := by
  intro setup machine isKept given
  have invoked : Accounts known (invoke self function none [left, right] spot) :=
    invoke_accounts accounts _ _ _ _
  have done := invoked setup machine isKept given
  unfold ordered
  split
  · rename_i ends
    exact .ok (ends ▸ done).leadsTo_of_ok
  · rename_i ends
    exact .ok (ends ▸ done).leadsTo_of_ok
  · rename_i ends
    exact .ok (ends ▸ done).leadsTo_of_ok
  · rename_i ends
    exact .ok (ends ▸ done).leadsTo_of_error
  · rename_i ends
    exact .error (ends ▸ done).leadsTo_of_error (ends ▸ done).hasOverflowed

theorem asked_accounts (function : Value) (items : Array Value) (spot : Spot) :
    Accounts known (asked self function items spot) :=
  .mapM fun _ => (apply_accounts accounts _ _ _ _ _).bind fun _ => .pure _

theorem firstAsked_accounts (function : Value) (items : Array Value) (start : Nat) (spot : Spot) :
    Accounts known (firstAsked self function items start spot) :=
  firstOf_accounts (fun _ => (apply_accounts accounts _ _ _ _ _).bind fun _ => .pure _) _

omit accounts in
theorem insertBy_accounts {isLess : Value → Value → Run Bool}
    (compares : ∀ left right, Accounts known (isLess left right)) (item : Value)
    (sorted : List Value) : Accounts known (insertBy isLess item sorted) := by
  induction sorted with
  | nil => exact .pure _
  | cons head tail ih =>
      refine (compares item head).bind fun isBefore => ?_
      split
      · exact .pure _
      · exact ih.bind fun _ => .pure _

omit accounts in
theorem sortBy_accounts {isLess : Value → Value → Run Bool}
    (compares : ∀ left right, Accounts known (isLess left right)) (items : List Value) :
    Accounts known (sortBy isLess items) :=
  .foldlM (fun _ _ => (insertBy_accounts (fun left right => compares right left) _ _).bind
    fun _ => .pure _) []

theorem reduced_accounts (function start : Value) (items : List (Value × Nat)) (spot : Spot) :
    FoundAccounts (reduced self function start items spot) :=
  .reads fun _ => .foldlM (fun _ _ => apply_accounts accounts _ _ _ _ _) start

/-- What a function makes of an item, where it makes something of it. -/
theorem mapped_accounts (function item : Value) (place : Nat) (spot : Spot) :
    Accounts known (do
      match ← apply self function [] item [.int place] spot with
      | .unit => return none
      | other => return some other) := by
  refine (apply_accounts accounts _ _ _ _ _).bind fun _ => ?_
  split
  · exact .pure _
  · exact .pure _

theorem askList_accounts (name : String) (items : Array Value) (rest : List Value) (spot : Spot) :
    FoundAccounts (askList self name items rest spot) := by
  have applied {known : Prop} := @apply_accounts self accounts known
  have first {known : Prop} := @firstAsked_accounts self accounts known
  unfold askList
  dsimp only
  split
  · exact .bind fun _ => .reads fun _ =>
      (Accounts.mapM fun _ => applied _ _ _ _ _).bind fun _ => .pure _
  · exact .bind fun _ => .reads fun _ =>
      (asked_accounts accounts _ _ _).bind fun _ => .pure _
  · exact .bind fun _ => .reads fun _ => (first _ _ _ _).bind fun _ => .pure _
  · exact .bind fun _ => .reads fun _ => (first _ _ _ _).bind fun _ => .pure _
  · exact .bind fun _ => .reads fun _ => (first _ _ _ _).bind fun _ => .pure _
  · exact .bind fun _ => .reads fun _ => (first _ _ _ _).bind fun _ => .pure _
  · refine .bind fun _ => .reads fun _ => (firstOf_accounts (fun _ => ?_) _).bind fun _ => .pure _
    exact mapped_accounts accounts _ _ _ _
  · refine .bind fun _ => .reads fun _ => (firstOf_accounts (fun _ => ?_) _).bind fun _ => .pure _
    exact mapped_accounts accounts _ _ _ _
  · exact .bind fun _ => .reads fun _ => (first _ _ _ _).bind fun _ => .pure _
  · refine .bind fun _ => .reads fun _ => (firstOf_accounts (fun _ => ?_) _).bind fun _ => .pure _
    exact (applied _ _ _ _ _).bind fun _ => .pure _
  · exact .bind fun _ => reduced_accounts accounts _ _ _ _
  · exact .bind fun _ => reduced_accounts accounts _ _ _ _
  · exact .bind fun _ => reduced_accounts accounts _ _ _ _
  · exact .bind fun _ => reduced_accounts accounts _ _ _ _
  · exact .bind fun _ => .reads fun _ =>
      (sortBy_accounts (ordered_accounts accounts _ _) _).bind fun _ => .pure _
  · exact .bind fun _ => .reads fun _ =>
      (Accounts.mapM fun _ => applied _ _ _ _ _).bind fun _ => .pure _
  · exact .none

theorem withoutAlike_accounts (function : Value) (spot : Spot) (items : List Value) :
    Accounts known (withoutAlike self function spot items) := by
  cases items with
  | nil => exact .pure _
  | cons first rest =>
      refine (Accounts.foldlM (fun _ _ => ?_) _).bind fun _ => .pure _
      exact (invoke_accounts accounts _ _ _ _).map.map.bind fun _ => .pure _

theorem shapeList_accounts (name : String) (items : Array Value) (rest : List Value)
    (spot : Spot) : FoundAccounts (shapeList self name items rest spot) := by
  unfold shapeList
  dsimp only
  split
  · refine .bind fun _ => .writes fun _ => (Accounts.mapM fun _ => ?_).bind fun _ => .pure _
    exact (visit_accounts accounts _ _ _ _ _).bind fun _ => .pure _
  · exact .bind fun _ => .writes fun _ =>
      (sortBy_accounts (ordered_accounts accounts _ _) _).bind fun _ => .pure _
  · exact .bind fun _ => .writes fun _ =>
      (withoutAlike_accounts accounts _ _ _).bind fun _ => .pure _
  · exact .bind fun _ => .writes fun _ =>
      (asked_accounts accounts _ _ _).bind fun _ => .pure _
  · exact .bind fun _ => .writes fun _ =>
      (asked_accounts accounts _ _ _).bind fun _ => .pure _
  · exact .none

theorem lists_accounts (name : String) (arguments : List Value) (spot : Spot) :
    FoundAccounts (lists self name arguments spot) := by
  unfold lists
  split
  · exact (askList_accounts accounts _ _ _ _).orElse <| (readList_accounts _ _ _).orElse <|
      (shapeList_accounts accounts _ _ _ _).orElse (writeList_accounts _ _ _ _)
  · exact .none

theorem readMap_accounts (name : String) (members : List (String × Value)) (rest : List Value)
    (spot : Spot) : FoundAccounts (readMap self name members rest spot) := by
  unfold readMap
  split
  · exact .value _
  · exact .value _
  · exact .value _
  · exact .value _
  · exact .value _
  · exact .value _
  · exact .value _
  · exact .value _
  · exact .value _
  · exact .reads fun _ => Accounts.get.bind fun _ => .pure _
  · refine .bind fun _ => .reads fun _ => (Accounts.filterM fun _ => ?_).bind fun _ => .pure _
    exact (apply_accounts accounts _ _ _ _ _).bind fun _ => .pure _
  · exact .none

theorem writeMap_accounts (name : String) (members : List (String × Value)) (rest : List Value)
    (spot : Spot) : FoundAccounts (writeMap self name members rest spot) := by
  unfold writeMap
  dsimp only
  split
  · exact .change _ _
  · exact .change _ _
  · exact .change _ _
  · exact .change _ _
  · exact .change _ _
  · exact .change _ _
  · refine .bind fun _ => .writes fun _ => (Accounts.mapM fun _ => ?_).bind fun _ => .pure _
    exact (apply_accounts accounts _ _ _ _ _).bind fun _ => .pure _
  · refine .bind fun _ => .writes fun _ => (Accounts.mapM fun _ => ?_).bind fun _ => .pure _
    exact (apply_accounts accounts _ _ _ _ _).bind fun _ => .pure _
  · exact .none

omit accounts in
theorem functions_accounts (name : String) (arguments : List Value) :
    FoundAccounts (functions name arguments) := by
  unfold functions
  split
  all_goals simp

omit accounts in
theorem general_accounts (name : String) (arguments : List Value) (spot : Spot) :
    FoundAccounts (general name arguments spot) := by
  have printed (value : Value) (act : String → Write) :
      FoundAccounts (some <| .reads do Run.print (act (← Run.display value)); return .unit) :=
    .reads fun _ => (Accounts.display _).bind fun _ => (Accounts.print _).bind fun _ => .pure _
  unfold general
  split
  · exact printed _ _
  · exact .reads fun _ => (Accounts.print _).bind fun _ => .pure _
  · exact printed _ _
  · exact .reads fun _ => (Accounts.remark _).bind fun _ => .pure _
  · exact .reads fun _ => Accounts.get.bind fun _ => (Accounts.remark _).bind fun _ => .pure _
  · exact .reads fun _ => (Accounts.display _).map
  · exact .reads fun _ => Accounts.get.bind fun _ => .pure _
  · exact .value _
  · exact .value _
  · exact .reads fun _ => (Accounts.display _).bind fun _ => .pure _
  · exact .reads fun _ => (Accounts.display _).bind fun _ => .pure _
  · exact .writes fun _ => (Accounts.display _).bind fun _ => .pure _
  · exact .none

/-- The whole library accounts for the output. -/
theorem native?_accounts (name : String) (arguments : List Value) (spot : Spot) :
    FoundAccounts (native? self name arguments spot) := by
  unfold native?
  split
  · exact (lists_accounts accounts _ _ _).orElse (general_accounts _ _ _)
  · exact (readMap_accounts accounts _ _ _ _).orElse <|
      (writeMap_accounts accounts _ _ _ _).orElse (general_accounts _ _ _)
  · exact (general_accounts _ _ _).orElse <| (texts_accounts _ _).orElse <|
      (numbers_accounts _ _ _).orElse (functions_accounts _ _)

end Library

end PageInjection.Script
