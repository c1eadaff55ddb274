import PageInjection.Proofs.Script.Library

/-!
# The interpreter accounts for the output

Every part of the language accounts for the output as far as the interpreter does that carries
out what is inside of it; so the interpreter does at every depth.
-/

namespace PageInjection.Script

open Library (native?_accounts invoke_accounts)

namespace Interpreter

variable {self : Interpreter} (accounts : self.Accounts) {known : Prop}

section Calls

include accounts

/-- A stop inside of a function comes out of it as a stop for the same cause. -/
theorem callFunction_accounts (function : Function) (this : Option Value) (arguments : List Value)
    (spot : Spot) : Script.Accounts known (self.callFunction function this arguments spot) := by
  unfold callFunction
  dsimp only
  split
  · exact .pure _
  refine (Accounts.tick spot).bind fun _ => Accounts.read.bind fun setup =>
    Accounts.get.bind fun machine => .check (fun _ => .fail (by nofun) spot) ?_
  refine Accounts.get.bind fun _ => Accounts.get.bind fun _ => Accounts.bind ?_ fun _ => ?_
  · exact .modify (fun _ => rfl) fun _ => rfl
  refine .attempt_bind (accounts.statements _) (fun value => ?_) fun stop => ?_
  · refine Accounts.get.bind fun _ => Accounts.bind ?_ fun _ => ?_
    · exact .modify (fun _ => rfl) fun _ => rfl
    · exact (Accounts.flat _).bind fun _ => .pure _
  · refine Accounts.get.bind fun _ => Accounts.bind ?_ fun _ => ?_
    · exact .modify (fun _ => rfl) fun _ => rfl
    · cases stop with
      | returned value => exact (Accounts.flat _).bind fun _ => .pure _
      | fault fault =>
          dsimp only
          split
          · exact .throw fun isForOutput => .inr ((fault.cause_moved _).symm.trans isForOutput)
          · exact .throw fun isForOutput => .inr isForOutput
      | nextRound => exact .throw fun isForOutput => .inr isForOutput
      | ended value => exact .throw fun isForOutput => .inr isForOutput
      | crashed message => exact .throw fun isForOutput => .inr isForOutput

theorem callNative_accounts (name : String) (arguments : List Value) (spot : Spot) :
    Script.Accounts known (self.callNative name arguments spot) := by
  have found := native?_accounts accounts name arguments spot
  unfold callNative
  split
  · exact .fail (by nofun) spot
  · rename_i run ends
    rw [ends] at found
    exact (Accounts.placed spot (found known)).bind fun _ =>
      (Accounts.checkSize _ spot).bind fun _ => .pure _
  · rename_i run ends
    rw [ends] at found
    exact (Accounts.placed spot (found known)).bind fun _ =>
      (Accounts.checkSize _ spot).bind fun _ => (Accounts.checkSize _ spot).bind fun _ => .pure _

theorem callNamed_accounts (name : String) (arguments : List Value) (spot : Spot) :
    Script.Accounts known (self.callNamed name arguments spot) := by
  refine (Accounts.function? _ _).bind fun found => ?_
  split
  · exact (accounts.call _ _ _ _).bind fun _ => .pure _
  · exact callNative_accounts accounts _ _ _

theorem callMethod_accounts (name : String) (target : Value) (isConstant : Bool)
    (arguments : List Value) (spot : Spot) :
    Script.Accounts known (self.callMethod name target isConstant arguments spot) := by
  have invoked {known : Prop} := @invoke_accounts self accounts known
  unfold callMethod
  dsimp only
  split
  · exact (invoked _ _ _ _).bind fun _ => .pure _
  · exact invoked _ _ _ _
  · exact .fail (by nofun) spot
  · split
    · exact invoked _ _ _ _
    · refine (Accounts.function? _ _).bind fun found => ?_
      split
      · exact accounts.call _ _ _ _
      · exact .check (fun _ => .fail (by nofun) spot) (callNative_accounts accounts _ _ _)

theorem operate_accounts (symbol : String) (left right : Value) (spot : Spot) :
    Script.Accounts known (self.operate symbol left right spot) := by
  unfold operate
  split
  · exact (Accounts.checkSize _ spot).bind fun _ => .pure _
  · exact .pure _
  · rename_i cause ends
    exact .fail (fun same => Operator.plain?_ne symbol left right (same ▸ ends)) spot
  · exact (callNative_accounts accounts _ _ _).bind fun _ => .pure _

theorem operateInPlace_accounts (symbol : String) (left right : Value) (spot : Spot) :
    Script.Accounts known (self.operateInPlace symbol left right spot) := by
  have found := native?_accounts accounts (symbol ++ "=") [left, right] spot
  unfold operateInPlace
  split
  · exact operate_accounts accounts _ _ _ _
  · split
    · rename_i run ends
      rw [ends] at found
      exact (Accounts.placed spot (found known)).bind fun _ =>
        (Accounts.checkSize _ spot).bind fun _ => .pure _
    · exact operate_accounts accounts _ _ _ _

end Calls

section Chains

include accounts

/-- What is assigned: the new value, or what an operator makes of the old and the new one. -/
theorem renewed_accounts (operator : Option String) (old new : Value) (spot : Spot) :
    Script.Accounts known (match operator with
      | none => Pure.pure new
      | some symbol => self.operateInPlace symbol old new spot) := by
  split
  · exact .pure _
  · exact operateInPlace_accounts accounts _ _ _ _

theorem assigned_accounts (assignment : Assignment) (isConstant : Bool) (old : Value) :
    Script.Accounts known (self.assigned assignment isConstant old) := by
  unfold assigned
  exact .check (fun _ => .fail (by nofun) _) (renewed_accounts accounts _ _ _ _)

/-- A part of a value with the way back: putting a new part in accounts for the output. -/
def PutsBack (found : Value × (Value → Run Value)) : Prop :=
  ∀ new known, Script.Accounts known (found.2 new)

omit accounts in
theorem partAt_accounts (target index : Value) (mark spot : Spot) :
    Script.Accounts known (partAt target index mark spot) := by
  unfold partAt
  dsimp only
  split
  · split
    · exact .pure _
    · exact .fail (by nofun) _
  · exact .fail (by nofun) _
  · exact .pure _
  · exact .fail (by nofun) _
  · split
    · exact .pure _
    · exact .fail (by nofun) _
  · exact .pure _
  · exact .fail (by nofun) _
  · split
    · exact .pure _
    · exact .fail (by nofun) _
  · exact .fail (by nofun) _

omit accounts in
theorem partAt_putsBack (target index : Value) (mark spot : Spot) :
    Gives PutsBack (partAt target index mark spot) := by
  unfold partAt
  dsimp only
  split
  · split
    · exact .pure fun _ _ => .pure _
    · exact .fail _ _
  · exact .fail _ _
  · exact .pure fun _ _ => .pure _
  · exact .fail _ _
  · split
    · refine .pure fun new _ => ?_
      dsimp only
      split
      · exact .pure _
      · exact .fail (by nofun) _
    · exact .fail _ _
  · exact .pure fun _ _ => .fail (by nofun) _
  · exact .fail _ _
  · split
    · refine .pure fun new _ => ?_
      dsimp only
      split
      · exact .pure _
      · exact .fail (by nofun) _
    · exact .fail _ _
  · exact .fail _ _

theorem partNamed_accounts (target : Value) (name : String) (spot : Spot) :
    Script.Accounts known (self.partNamed target name spot) := by
  unfold partNamed
  split
  · exact .pure _
  · split
    · exact (callNative_accounts accounts _ _ _).bind fun _ => .pure _
    · exact .fail (by nofun) _

omit accounts in
theorem partNamed_putsBack (target : Value) (name : String) (spot : Spot) :
    Gives PutsBack (self.partNamed target name spot) := by
  unfold partNamed
  split
  · exact .pure fun _ _ => .pure _
  · split
    · exact .bind fun _ => .pure fun _ _ => .fail (by nofun) _
    · exact .fail _ _

/-- The way into a part of a value and, with what becomes of it, back. -/
theorem walkInto_accounts (assignment : Option Assignment) (steps : List Step) (isConstant : Bool)
    (part : Value) (renewed : Value → Run Value) (putsBack : PutsBack (part, renewed))
    (walks : Script.Accounts known (self.walk assignment steps isConstant part)) :
    Script.Accounts known (match steps, assignment with
      | [], some assignment => do
          let new ← renewed (← self.assigned assignment isConstant part)
          Run.checkSize new assignment.spot
          return (.unit, some new)
      | _, _ => do
          let (result, changed) ← self.walk assignment steps isConstant part
          match changed with
          | some part => return (result, some (← renewed part))
          | none => return (result, none)) := by
  split
  · exact (assigned_accounts accounts _ _ _).bind fun _ => (putsBack _ _).bind fun _ =>
      (Accounts.checkSize _ _).bind fun _ => .pure _
  · refine walks.bind fun result => ?_
    dsimp only
    split
    · exact (putsBack _ _).bind fun _ => .pure _
    · exact .pure _

theorem walk_accounts (assignment : Option Assignment) (steps : List Step) (isConstant : Bool)
    (target : Value) :
    Script.Accounts known (self.walk assignment steps isConstant target) := by
  induction steps generalizing isConstant target known with
  | nil => exact .pure _
  | cons step steps ih =>
      have into (part : Value) (renewed : Value → Run Value) (back : PutsBack (part, renewed)) :=
        @walkInto_accounts self accounts known assignment steps isConstant part renewed back
          (ih isConstant part)
      unfold walk
      dsimp only
      refine .ite (.pure _) ?_
      split
      · have named (name : String) (spot : Spot) :
            Script.Accounts known (self.partNamed target name spot) :=
          partNamed_accounts accounts target name spot
        split
        · split
          · exact (named _ _).bind_of_gives (partNamed_putsBack _ _ _) fun _ back => into _ _ back
          · exact .fail (by nofun) _
        · refine (named _ _).bind_of_gives (partNamed_putsBack _ _ _) fun found back => ?_
          split
          · exact into _ _ back
          · split
            · exact into _ _ back
            · exact (ih _ _).bind fun _ => .pure _
      · exact (partAt_accounts _ _ _ _).bind_of_gives (partAt_putsBack _ _ _ _) fun _ back =>
          into _ _ back
      · exact (callMethod_accounts accounts _ _ _ _ _).bind fun _ => (ih _ _).bind fun _ => .pure _

omit accounts in
/-- What comes behind the mark of the next link. -/
theorem marked_accounts (next : Option Link) {rest : Run (List Step)}
    (later : Script.Accounts known rest) :
    Script.Accounts known (match next with
      | some next => do
          Run.tick next.mark
          rest
      | _ => rest) := by
  split
  · exact (Accounts.tick _).bind fun _ => later
  · exact later

theorem stepsOf_accounts (links : List Link) : Script.Accounts known (self.stepsOf links) := by
  induction links with
  | nil => exact .pure _
  | cons link links ih =>
      have ended (step : Step) : Script.Accounts known (do
          let step ← (pure step : Run Step)
          return step :: (← self.stepsOf links)) :=
        (Accounts.pure step).bind fun _ => ih.bind fun _ => .pure _
      have marked {rest : Run (List Step)} (later : Script.Accounts known rest) :=
        marked_accounts links.head? later
      unfold stepsOf
      cases link with
      | property isOptional name mark spot => exact marked (.check (fun _ => .tick _) (ended _))
      | index isOptional index mark =>
          exact marked (.check (fun _ => .tick _) ((accounts.expression _).bind fun _ =>
            (Accounts.flat _).bind fun _ => ended _))
      | method isOptional name arguments mark spot =>
          have valued (argument : Expr) : Script.Accounts known (do
              Run.flat (← self.expression argument)) :=
            (accounts.expression _).bind fun _ => .flat _
          exact marked (.check (fun _ => .tick _) ((Accounts.mapM valued).bind fun _ => ended _))

theorem stepsOfAll_accounts (links : List Link) :
    Script.Accounts known (self.stepsOfAll links) := by
  unfold stepsOfAll
  split
  · exact .pure _
  · exact .pure _
  · exact .pure _
  · exact stepsOf_accounts accounts _

theorem chain_accounts (root : Expr) (links : List Link) (assigning : Option Assigning) :
    Script.Accounts known (self.chain root links assigning) := by
  have walked {known : Prop} := @walk_accounts self accounts known
  refine (stepsOfAll_accounts accounts links).bind fun steps => ?_
  dsimp only
  split
  · refine (Accounts.tick _).bind fun _ => (Accounts.find? _).bind fun found => ?_
    split
    · refine (Accounts.variableAt _).bind fun entry => (Accounts.flat _).bind fun target =>
        (walked _ _ _ _).bind fun result => ?_
      split
      · exact (Accounts.store _ _).bind fun _ => .flat _
      · exact .flat _
    · refine Accounts.read.bind fun setup => .ite ?_ (.fail (by nofun) _)
      exact (walked _ _ _ _).bind fun _ => .pure _
  · refine (Accounts.tick _).bind fun _ => Accounts.get.bind fun machine => ?_
    split
    · refine (walked _ _ _ _).bind fun result => .check (fun _ => ?_) (.flat _)
      exact .modify (fun _ => rfl) fun _ => rfl
    · exact .fail (by nofun) _
  · exact (accounts.expression _).bind fun _ => (Accounts.flat _).bind fun _ =>
      (walked _ _ _ _).bind fun _ => .flat _

end Chains

section Expressions

theorem variableValue_accounts (name : String) (spot : Spot) :
    Script.Accounts known (variableValue name spot) := by
  refine (Accounts.find? _).bind fun found => ?_
  split
  · exact (Accounts.variableAt _).bind fun _ => .flat _
  · exact Accounts.read.bind fun _ => .ite (.pure _) (.fail (by nofun) _)

theorem pointer_accounts (value : Value) (spot : Spot) :
    Script.Accounts known (pointer value spot) := by
  unfold pointer
  split
  · exact .ite (.pure _) (.fail (by nofun) _)
  · exact .fail (by nofun) _

theorem closureOf_accounts (name : String) (captured : List (String × Spot)) (spot : Spot) :
    Script.Accounts known (closureOf name captured spot) := by
  unfold closureOf
  dsimp only
  refine .check (fun _ => .tick spot) ((Accounts.mapM fun _ => ?_).bind fun _ => .pure _)
  refine (Accounts.tick _).bind fun _ => (Accounts.find? _).bind fun found => ?_
  split
  · exact .share _
  · exact .fail (by nofun) _

include accounts

theorem flatValue_accounts (expr : Expr) : Script.Accounts known (self.flatValue expr) :=
  (accounts.expression expr).bind fun _ => .flat _

theorem holds_accounts (condition : Expr) : Script.Accounts known (self.holds condition) := by
  refine (flatValue_accounts accounts _).bind fun value => ?_
  split
  · exact .pure _
  · exact .fail (by nofun) _

theorem itemsOf_accounts (items : List Expr) (size : Value.Size) (done : Array Value) :
    Script.Accounts known (self.itemsOf items size done) := by
  induction items generalizing size done with
  | nil => exact .pure _
  | cons item items ih =>
      exact (flatValue_accounts accounts _).bind fun _ => (Accounts.checkGrowth _ _).bind fun _ =>
        ih _ _

theorem membersOf_accounts (members : List (String × Expr)) (size : Value.Size)
    (done : List (String × Value)) :
    Script.Accounts known (self.membersOf members size done) := by
  induction members generalizing size done with
  | nil => exact .pure _
  | cons member members ih =>
      exact (flatValue_accounts accounts _).bind fun _ => (Accounts.checkGrowth _ _).bind fun _ =>
        ih _ _

theorem templateOf_accounts (parts : List Expr) (done : String) :
    Script.Accounts known (self.templateOf parts done) := by
  induction parts generalizing done with
  | nil => exact .pure _
  | cons part parts ih =>
      exact (flatValue_accounts accounts _).bind fun _ => (Accounts.display _).bind fun _ =>
        (Accounts.checkSize _ _).bind fun _ => ih _

theorem callOnVariable_accounts (name variableName : String) (variableSpot : Spot)
    (rest : List Value) (spot : Spot) :
    Script.Accounts known (self.callOnVariable name variableName variableSpot rest spot) := by
  refine (Accounts.find? _).bind fun found => ?_
  split
  · refine (Accounts.tick _).bind fun _ => (Accounts.variableAt _).bind fun entry =>
      (Accounts.flat _).bind fun target => (callNamed_accounts accounts _ _ _).bind fun result => ?_
    dsimp only
    split
    · exact .check (fun _ => .store _ _) (.pure _)
    · exact .pure _
  · exact (variableValue_accounts _ _).bind fun _ => (Accounts.tick _).bind fun _ =>
      (callNamed_accounts accounts _ _ _).bind fun _ => .pure _

theorem operation_accounts (symbol : String) (arguments : List Expr) (spot : Spot) :
    Script.Accounts known (self.operation symbol arguments spot) := by
  unfold operation
  split
  · exact (flatValue_accounts accounts _).bind fun _ => (flatValue_accounts accounts _).bind
      fun _ => operate_accounts accounts _ _ _ _
  · refine (flatValue_accounts accounts _).bind fun value => ?_
    split
    · exact .pure _
    · rename_i cause ends
      exact .fail (fun same => Operator.sign?_ne symbol value (same ▸ ends)) spot
    · exact (callNative_accounts accounts _ _ _).bind fun _ => .pure _
  · exact .fail (by nofun) spot

theorem callOf_accounts (name : String) (arguments : List Expr) (spot : Spot) :
    Script.Accounts known (self.callOf name arguments spot) := by
  have flatValue {known : Prop} := @flatValue_accounts self accounts known
  unfold callOf
  split
  · refine (flatValue _).bind fun value => .check (fun _ => .fail (by nofun) _) ?_
    exact (Accounts.mapM flatValue).bind fun _ =>
      (invoke_accounts accounts _ _ _ _).bind fun _ => .pure _
  · exact (flatValue _).bind fun _ => pointer_accounts _ _
  · refine (flatValue _).bind fun value => .check (fun _ => .fail (by nofun) _) ?_
    exact (Accounts.mapM flatValue).bind fun _ =>
      (callNative_accounts accounts _ _ _).bind fun _ => .pure _
  · refine (flatValue _).bind fun value => ?_
    split
    · exact (Accounts.find? _).bind fun _ => .pure _
    · exact .fail (by nofun) _
  · refine (flatValue _).bind fun value => (flatValue _).bind fun arity => ?_
    split
    · exact (Accounts.function? _ _).bind fun _ => .pure _
    · exact .fail (by nofun) _
    · exact .fail (by nofun) _
  · refine (Accounts.find? _).bind fun found => ?_
    split
    · exact (Accounts.variableAt _).bind fun _ => .pure _
    · exact .fail (by nofun) _
  · exact (Accounts.mapM flatValue).bind fun _ => callOnVariable_accounts accounts _ _ _ _ _
  · exact (Accounts.mapM flatValue).bind fun _ =>
      (callNamed_accounts accounts _ _ _).bind fun _ => .pure _

theorem inBlock_accounts (body : Block) : Script.Accounts known (self.inBlock body) :=
  Accounts.get.bind fun _ => (accounts.statements _).bind fun _ => (Accounts.flat _).bind fun _ =>
    (Accounts.forget _).bind fun _ => .pure _

theorem expressionOf_accounts (expr : Expr) : Script.Accounts known (self.expressionOf expr) := by
  refine (Accounts.tick _).bind fun _ => ?_
  split
  · exact .pure _
  · exact (templateOf_accounts accounts _ _).bind fun _ => .pure _
  · exact (itemsOf_accounts accounts _ _ _).bind fun _ => .pure _
  · exact (membersOf_accounts accounts _ _ _).bind fun _ => .pure _
  · exact variableValue_accounts _ _
  · refine Accounts.get.bind fun machine => ?_
    split
    · exact .pure _
    · exact .fail (by nofun) _
  · exact .ite (operation_accounts accounts _ _ _) (callOf_accounts accounts _ _ _)
  · exact (holds_accounts accounts _).bind fun _ => .ite (holds_accounts accounts _).map (.pure _)
  · exact (holds_accounts accounts _).bind fun _ => .ite (.pure _) (holds_accounts accounts _).map
  · refine (flatValue_accounts accounts _).bind fun value => ?_
    split
    · exact accounts.expression _
    · exact .pure _
  · exact chain_accounts accounts _ _ _
  · exact closureOf_accounts _ _ _
  · exact inBlock_accounts accounts _

end Expressions

section Statements

include accounts

theorem round_accounts (body : Block) : Script.Accounts known (self.round body) := by
  refine Accounts.get.bind fun machine => .attempt_bind (inBlock_accounts accounts _)
    (fun _ => .pure _) fun stop => ?_
  cases stop with
  | nextRound => exact (Accounts.forget _).bind fun _ => .pure _
  | ended value => exact (Accounts.forget _).bind fun _ => .pure _
  | fault fault => exact .throw .inr
  | returned value => exact .throw .inr
  | crashed message => exact .throw .inr

/-- A round, and what follows unless the round ends the loop. -/
theorem roundThen_accounts (body : Block) {again : Run Value}
    (later : Script.Accounts known again) :
    Script.Accounts known (do
      match ← self.round body with
      | some value => return value
      | none => again) := by
  refine (round_accounts accounts body).bind fun value => ?_
  split
  · exact .pure _
  · exact later

theorem looped_accounts (condition : Option Expr) (body : Block) (fuel : Nat) :
    Script.Accounts known (self.looped condition body fuel) := by
  induction fuel with
  | zero => exact .pure _
  | succ fuel ih =>
      have again := roundThen_accounts accounts body ih
      unfold looped
      cases condition with
      | some condition =>
          refine (holds_accounts accounts condition).bind fun holds => .ite (.pure _) ?_
          exact .ite ((Accounts.tick _).bind fun _ => ih) again
      | none =>
          refine (Accounts.pure true).bind fun holds => .ite (.pure _) ?_
          exact .ite ((Accounts.tick _).bind fun _ => ih) again

theorem repeated_accounts (body : Block) (condition : Expr) (ends : Bool) (fuel : Nat) :
    Script.Accounts known (self.repeated body condition ends fuel) := by
  induction fuel generalizing known with
  | zero => exact .pure _
  | succ fuel ih =>
      have again : Script.Accounts known (do
          if (← self.holds condition) == ends then return .unit
          else self.repeated body condition ends fuel) :=
        (holds_accounts accounts _).bind fun _ => .ite (.pure _) ih
      refine Accounts.get.bind fun machine => ?_
      dsimp only
      split
      · rw [pure_bind]
        exact again
      · refine .attempt_bind (inBlock_accounts accounts _) (fun _ => again) fun stop => ?_
        cases stop with
        | nextRound => exact (Accounts.forget _).bind fun _ => ih
        | ended value => exact (Accounts.forget _).bind fun _ => .pure _
        | fault fault => exact .throw .inr
        | returned value => exact .throw .inr
        | crashed message => exact .throw .inr

/-- A round for an item, and what follows unless the round ends the loop. -/
theorem itemThen_accounts (place : Nat) (item : Value) (body : Block) {again : Run Value}
    (later : Script.Accounts known again) :
    Script.Accounts known (do
      Run.store place (← Run.flat item)
      Run.tick body.spot
      if body.statements.isEmpty then again
      else
        match ← self.round body with
        | some value => return value
        | none => again) :=
  (Accounts.flat _).bind fun _ => (Accounts.store _ _).bind fun _ => (Accounts.tick _).bind fun _ =>
    .ite later (roundThen_accounts accounts body later)

theorem eachOf_accounts (place : Nat) (counter : Option Nat) (body : Block) (fuel round : Nat)
    (cursor : Cursor) :
    Script.Accounts known (self.eachOf place counter body fuel round cursor) := by
  induction fuel generalizing round cursor with
  | zero => exact .pure _
  | succ fuel ih =>
      unfold eachOf
      split
      · exact .pure _
      · rename_i item cursor _
        cases counter with
        | none => exact itemThen_accounts accounts place item body (ih _ _)
        | some counter =>
            exact (Accounts.store _ _).bind fun _ =>
              itemThen_accounts accounts place item body (ih _ _)

theorem each_accounts (name : String) (counter : Option String) (source : Expr) (body : Block) :
    Script.Accounts known (self.each name counter source body) := by
  refine (flatValue_accounts accounts _).bind fun value => ?_
  split
  · exact .fail (by nofun) _
  · have rounds (place : Nat) (places : Option Nat) (count : Nat) (cursor : Cursor) :
        Script.Accounts known (do
          Run.declare name .unit false
          let result ← self.eachOf place places body manyRounds 0 cursor
          Run.forget count
          return result) :=
      (Accounts.declare _ _ _).bind fun _ => (eachOf_accounts accounts _ _ _ _ _ _).bind fun _ =>
        (Accounts.forget _).bind fun _ => .pure _
    refine Accounts.get.bind fun machine => ?_
    cases counter with
    | none => exact rounds _ _ _ _
    | some counter => exact (Accounts.declare _ _ _).bind fun _ => rounds _ _ _ _

theorem chosen_accounts (value : Value) (ranges : Bool) (cases : List Case) :
    Script.Accounts known (self.chosen value ranges cases) := by
  induction cases with
  | nil => exact .pure _
  | cons head rest ih =>
      obtain ⟨labels, condition, body⟩ := head
      have decided (holds : Bool) : Script.Accounts known (do
          if holds then return some body
          self.chosen value ranges rest) :=
        .ite (.pure _) ih
      unfold chosen
      refine .ite ?_ ih
      cases condition with
      | some condition => exact (holds_accounts accounts _).bind decided
      | none => exact (Accounts.pure true).bind decided

theorem choose_accounts (subject : Expr) (cases : List Case) :
    Script.Accounts known (self.choose subject cases) := by
  refine (flatValue_accounts accounts _).bind fun value =>
    (chosen_accounts accounts _ _ _).bind fun found => ?_
  split
  · exact accounts.expression _
  · exact .pure _

/-- A fault that is caught and thrown again is a stop for the same cause. -/
theorem handled_accounts (handler : Block) (fault : Fault) (size : Nat) :
    Script.Accounts (known ∨ (Stop.fault fault).IsForOutput) (do
      let handled ← Run.attempt (self.inBlock handler)
      Run.forget size
      match handled with
      | .ok _ => return Value.unit
      | .error (.fault (.at (.thrown .unit _) spot)) => throw (.fault (fault.moved spot))
      | .error other => throw other) := by
  refine .attempt_bind (inBlock_accounts accounts _)
    (fun _ => (Accounts.forget _).bind fun _ => .pure _) fun other => ?_
  refine (Accounts.forget _).bind fun _ => ?_
  split
  · exact .pure _
  · exact .throw fun isForOutput => .inl (.inr ((fault.cause_moved _).symm.trans isForOutput))
  · rename_i same
    obtain rfl := Except.error.inj same
    exact .throw .inr

theorem attempted_accounts (body : Block) (name : Option String) (handler : Block) :
    Script.Accounts known (self.attempted body name handler) := by
  refine Accounts.get.bind fun machine => .attempt_bind (inBlock_accounts accounts _)
    (fun _ => .pure _) fun stop => ?_
  cases stop with
  | nextRound => exact .throw .inr
  | ended value => exact .throw .inr
  | returned value => exact .throw .inr
  | crashed message => exact .throw .inr
  | fault fault =>
      have handled := @handled_accounts self accounts known handler fault machine.scope.size
      dsimp only
      refine .check (fun _ => .throw .inr) ((Accounts.forget _).bind fun _ => ?_)
      cases name with
      | none => exact handled
      | some name => exact (Accounts.declare _ _ _).bind fun _ => handled

theorem assign_accounts (target : Expr) (operator : Option String) (value : Expr) (spot : Spot) :
    Script.Accounts known (self.assign target operator value spot) := by
  refine (flatValue_accounts accounts _).bind fun right => ?_
  have renewed (old : Value) := @renewed_accounts self accounts known operator old right spot
  dsimp only
  split
  · refine (Accounts.tick _).bind fun _ => (Accounts.find? _).bind fun found => ?_
    split
    · refine (Accounts.variableAt _).bind fun entry => .check (fun _ => .fail (by nofun) _) ?_
      refine (Accounts.holdsText _).bind fun isText => ?_
      split
      · exact .appendText _ _ _
      · exact (Accounts.variableAt _).bind fun _ => (Accounts.flat _).bind fun _ =>
          (renewed _).bind fun _ => .store _ _
    · exact Accounts.read.bind fun _ => .ite (.fail (by nofun) _) (.fail (by nofun) _)
  · refine (Accounts.tick _).bind fun _ => Accounts.get.bind fun machine => ?_
    split
    · refine (renewed _).bind fun _ => ?_
      exact .modify (fun _ => rfl) fun _ => rfl
    · exact .fail (by nofun) _
  · exact (chain_accounts accounts _ _ _).bind fun _ => .pure _
  · exact Accounts.get.bind fun _ => .throw (by nofun)

theorem carryOut_accounts (statement : Stmt) : Script.Accounts known (self.carryOut statement) := by
  have flatValue {known : Prop} := @flatValue_accounts self accounts known
  refine (Accounts.tick _).bind fun _ => ?_
  split
  · exact .pure _
  · exact .ite (operation_accounts accounts _ _ _) (callOf_accounts accounts _ _ _)
  · exact flatValue _
  · exact (assign_accounts accounts _ _ _ _).bind fun _ => .pure _
  · exact (flatValue _).bind fun _ => (Accounts.declare _ _ _).bind fun _ => .pure _
  · exact (holds_accounts accounts _).bind fun _ =>
      .ite (inBlock_accounts accounts _) (inBlock_accounts accounts _)
  · exact choose_accounts accounts _ _
  · exact looped_accounts accounts _ _ _
  · exact repeated_accounts accounts _ _ _ _
  · exact each_accounts accounts _ _ _ _
  · exact .throw (by nofun)
  · exact .throw (by nofun)
  · exact (flatValue _).bind fun _ => .throw (by nofun)
  · exact .throw (by nofun)
  · exact (flatValue _).bind fun _ => .throw (by nofun)
  · exact .fail (by nofun) _
  · exact (flatValue _).bind fun _ => (Accounts.display _).bind fun _ => .fail (by nofun) _
  · exact attempted_accounts accounts _ _ _
  · exact inBlock_accounts accounts _

theorem carryOutAll_accounts (statements : List Stmt) :
    Script.Accounts known (self.carryOutAll statements) := by
  induction statements with
  | nil => exact .pure _
  | cons statement rest ih =>
      cases rest with
      | nil => exact carryOut_accounts accounts _
      | cons next rest => exact (carryOut_accounts accounts _).bind fun _ => ih

end Statements

/-- The interpreter accounts for the output at every depth. -/
theorem toDepth_accounts (depth : Nat) : (toDepth depth).Accounts := by
  induction depth with
  | zero =>
      exact {
        expression := fun _ => .fail (by nofun) _
        statements := fun _ => .throw (by nofun)
        call := fun _ _ _ _ => .fail (by nofun) _
        native := fun _ _ _ => .fail (by nofun) _ }
  | succ depth ih =>
      exact {
        expression := fun _ => expressionOf_accounts ih _
        statements := fun _ => carryOutAll_accounts ih _
        call := fun _ _ _ _ => callFunction_accounts ih _ _ _ _
        native := fun _ _ _ => callNative_accounts ih _ _ _ }

end Interpreter

end PageInjection.Script
