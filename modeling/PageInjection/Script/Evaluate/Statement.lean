import PageInjection.Script.Evaluate.Expression

/-!
# Statements

How statements are carried out.  A loop goes on as long as it may; the count of
rounds that bounds it is far beyond what a run can reach.
-/

namespace PageInjection.Script

/-- Where a loop over items has come to. -/
inductive Cursor where
  | items (rest : List Value)
  | counting (next last step : Int)

namespace Cursor

/-- The cursor at the start of a value, if it can be gone through. -/
def of? : Value → Option Cursor
  | .list values => some (.items values.toList)
  | .text text => some (.items (text.toList.map Value.char))
  | .range first last isInclusive =>
    some (.counting first (if isInclusive then last + 1 else last) 1)
  | .steps first last step => some (.counting first last step)
  | _ => none

def next? : Cursor → Option (Value × Cursor)
  | .items [] => none
  | .items (item :: rest) => some (item, .items rest)
  | .counting next last step =>
      if (step > 0 ∧ next < last) ∨ (step < 0 ∧ next > last) then
        some (.int next, .counting (next + step) last step)
      else none

end Cursor

def manyRounds : Nat := 0x4000000000000000

namespace Interpreter

open Run

variable (self : Interpreter)

/-- Carry out one round of a loop; the value is that of a loop that ends. -/
def round (body : Block) : Run (Option Value) := do
  let count := (← get).scope.size
  match ← attempt (self.inBlock body) with
  | .ok _ => return none
  | .error .nextRound =>
      forget count
      return none
  | .error (.ended value) =>
      forget count
      return some value
  | .error other => throw other

/-- A loop with its condition in front, or with none. -/
def looped (condition : Option Expr) (body : Block) : (fuel : Nat) → Run Value
  | 0 => return .unit
  | fuel + 1 => do
      let goesOn ← match condition with
        | some condition => self.holds condition
        | none => pure true
      if !goesOn then return .unit
      if body.statements.isEmpty then
        tick body.spot
        looped condition body fuel
      else
        match ← self.round body with
        | some value => return value
        | none => looped condition body fuel

/-- A loop with its condition behind; a round that is cut short does not look at
the condition. -/
def repeated (body : Block) (condition : Expr) (ends : Bool) : (fuel : Nat) → Run Value
  | 0 => return .unit
  | fuel + 1 => do
      let count := (← get).scope.size
      let result ← if body.statements.isEmpty then pure (.ok .unit) else attempt (self.inBlock body)
      match result with
      | .ok _ =>
          if (← self.holds condition) == ends then return .unit
          else repeated body condition ends fuel
      | .error .nextRound =>
          forget count
          repeated body condition ends fuel
      | .error (.ended value) =>
          forget count
          return value
      | .error other => throw other

/-- A loop over items, whose variables are at known places. -/
def eachOf (place : Nat) (counter : Option Nat) (body : Block) :
    (fuel : Nat) → (round : Nat) → Cursor → Run Value
  | 0, _, _ => return .unit
  | fuel + 1, count, cursor => do
      match cursor.next? with
      | none => return .unit
      | some (item, cursor) =>
          if let some counter := counter then store counter (.int count)
          store place (← flat item)
          tick body.spot
          if body.statements.isEmpty then eachOf place counter body fuel (count + 1) cursor
          else
            match ← self.round body with
            | some value => return value
            | none => eachOf place counter body fuel (count + 1) cursor

def each (name : String) (counter : Option String) (source : Expr) (body : Block) : Run Value := do
  let value ← self.flatValue source
  match Cursor.of? value with
  | none => fail .notIterable source.first
  | some cursor =>
      let count := (← get).scope.size
      if let some counter := counter then declare counter (.int 0) false
      declare name .unit false
      let place := if counter.isSome then count + 1 else count
      let result ← self.eachOf place (counter.map fun _ => count) body manyRounds 0 cursor
      forget count
      return result

def fits (value : Value) : Value → Bool
  | .range first last isInclusive =>
      match value with
      | .int number => decide (first ≤ number) && (number < last || (isInclusive && number == last))
      | _ => false
  | label =>
      label.typeName == value.typeName && Operator.same Operator.depth label value

def isRange : Value → Bool
  | .range _ _ _ => true
  | _ => false

/-- The body of the first case for a value; `ranges` tells which labels are
looked at. -/
def chosen (value : Value) (ranges : Bool) : List Case → Run (Option Expr)
  | [] => return none
  | .of labels condition body :: rest => do
      if labels.any fun label => isRange label == ranges && fits value label then
        let holds ← match condition with
          | some condition => self.holds condition
          | none => pure true
        if holds then return some body
      chosen value ranges rest

def default? (cases : List Case) : Option Expr :=
  cases.findSome? fun
    | .of [] _ body => some body
    | _ => none

def choose (subject : Expr) (cases : List Case) : Run Value := do
  let value ← self.flatValue subject
  let isLabel := cases.any fun (.of labels _ _) =>
    labels.any fun label => !isRange label && fits value label
  let found ← self.chosen value (!isLabel) cases
  match found <|> default? cases with
  | some body => self.expression body
  | none => return .unit

/-- An attempt with a handler.  Final faults pass through; a handler that throws
the unit value throws on what it was given. -/
def attempted (body : Block) (name : Option String) (handler : Block) : Run Value := do
  let count := (← get).scope.size
  match ← attempt (self.inBlock body) with
  | .ok value => return value
  | .error (.fault fault) =>
      if fault.cause.isFinal then throw (.fault fault)
      forget count
      if let some name := name then declare name fault.caught false
      let handled ← attempt (self.inBlock handler)
      forget count
      match handled with
      | .ok _ => return .unit
      | .error (.fault (.at (.thrown .unit _) spot)) => throw (.fault (fault.moved spot))
      | .error other => throw other
  | .error other => throw other

/-- What happens when a literal is assigned to. -/
def crashText (target : Expr) (cells : Array Value) : String :=
  match target with
  | .literal value spot =>
      "internal error: entered unreachable code: cannot assign to expression: " ++
        Value.quoted cells Value.displayDepth value ++ " @ " ++ spot.short
  | _ => "internal error: entered unreachable code: cannot assign to an expression"

def assign (target : Expr) (operator : Option String) (value : Expr) (spot : Spot) :
    Run Unit := do
  let right ← self.flatValue value
  let renewed (old : Value) : Run Value :=
    match operator with
    | none => pure right
    | some symbol => self.operateInPlace symbol old right spot
  match target with
  | .reference name place =>
      tick place
      match ← find? name with
      | some index =>
          if (← variableAt index).isConstant then fail (.constant name) place
          match operator, ← holdsText index, right with
          | some "+", true, .text tail => appendText index tail spot
          | _, _, _ => store index (← renewed (← flat (← variableAt index).value))
      | none =>
          if (← read).functions.any fun function => function.name == name then
            fail (.constant name) place
          else fail (.noVariable name) place
  | .this place =>
      tick place
      match (← get).this with
      | some old =>
          let new ← renewed old
          modify fun machine => { machine with this := some new }
      | none => fail .noThis place
  | .chain root links =>
      let _ ← self.chain root links (some ⟨operator, right, spot⟩)
  | other => throw (.crashed (crashText other (← get).cells))

def carryOut (statement : Stmt) : Run Value := do
  tick statement.spot
  match statement with
  | .nothing _ => return .unit
  | .expression (.call name isOperator arguments spot) =>
      if isOperator then self.operation name arguments spot else self.callOf name arguments spot
  | .expression value => self.flatValue value
  | .assign target operator value spot =>
      self.assign target operator value spot
      return .unit
  | .declare isConstant name value _ =>
      let value ← self.flatValue value
      declare name value isConstant
      return .unit
  | .branch condition body other _ =>
      if ← self.holds condition then self.inBlock body else self.inBlock other
  | .choose subject cases _ => self.choose subject cases
  | .loop condition body _ => self.looped condition body manyRounds
  | .repeat body condition ends _ => self.repeated body condition ends manyRounds
  | .each name counter source body _ => self.each name counter source body
  | .exit false _ _ => throw .nextRound
  | .exit true none _ => throw (.ended .unit)
  | .exit true (some value) _ => throw (.ended (← self.flatValue value))
  | .leave false none _ => throw (.returned .unit)
  | .leave false (some value) _ => throw (.returned (← self.flatValue value))
  | .leave true none spot => fail (.thrown .unit "") spot
  | .leave true (some value) spot =>
      let value ← self.flatValue value
      fail (.thrown value (← display value)) spot
  | .attempt body name handler _ => self.attempted body name handler
  | .block body => self.inBlock body

/-- Carry out statements one after the other. -/
def carryOutAll : List Stmt → Run Value
  | [] => return .unit
  | [last] => self.carryOut last
  | statement :: rest => do
      let _ ← self.carryOut statement
      carryOutAll rest

end Interpreter

end PageInjection.Script
