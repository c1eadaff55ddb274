import PageInjection.Script.Evaluate.Chain

/-!
# Expressions

The value of every kind of expression.
-/

namespace PageInjection.Script

namespace Interpreter

open Run

variable (self : Interpreter)

/-- The value of a variable; a function of the script is known by its name. -/
def variableValue (name : String) (spot : Spot) : Run Value := do
  match ← find? name with
  | some place => flat (← variableAt place).value
  | none =>
      if (← read).functions.any fun function => function.name == name then
        return .function name []
      else fail (.noVariable name) spot

/-- The value of an expression, not shared. -/
def flatValue (expr : Expr) : Run Value := do
  flat (← self.expression expr)

def holds (condition : Expr) : Run Bool := do
  match ← self.flatValue condition with
  | .bool value => return value
  | other => fail (.wrongType other.typeName "bool") condition.spot

/-- Refuse a growing literal that holds too much. -/
def checkGrowth (size : Value.Size) (spot : Spot) : Run Unit := do
  let limits := (← read).limits
  let exceeds (limit : UInt64) (amount : Nat) : Bool := limit != 0 && amount > limit.toNat
  if exceeds limits.stringBytes size.bytes then fail (.tooLarge .text) spot
  if exceeds limits.arrayItems size.items then fail (.tooLarge .list) spot
  if exceeds limits.mapMembers size.members then fail (.tooLarge .map) spot

def itemsOf : List Expr → (size : Value.Size) → (done : Array Value) → Run (Array Value)
  | [], _, done => return done
  | item :: items, size, done => do
      let value ← self.flatValue item
      let size := (size.add (Value.sizeOf Value.displayDepth value)).add ⟨1, 0, 0⟩
      checkGrowth size item.spot
      itemsOf items size (done.push value)

def membersOf : List (String × Expr) → (size : Value.Size) → (done : List (String × Value)) →
    Run (List (String × Value))
  | [], _, done => return done
  | (name, item) :: members, size, done => do
      let value ← self.flatValue item
      let size := (size.add (Value.sizeOf Value.displayDepth value)).add ⟨0, 1, 0⟩
      checkGrowth size item.spot
      membersOf members size (Value.putMember name value done)

def templateOf : List Expr → (done : String) → Run String
  | [], done => return done
  | part :: parts, done => do
      let done := done ++ (← display (← self.flatValue part))
      checkSize (.text done) part.spot
      templateOf parts done

def pointer (value : Value) (spot : Spot) : Run Value := do
  match value with
  | .text name =>
      let isName := match name.toList with
        | [] => false
        | c :: rest => (c.isAlpha || c == '_') && rest.all fun c => c.isAlphanum || c == '_'
      if isName then return .function name [] else fail (.noFunction name) spot
  | other => fail (.wrongType other.typeName "string") spot

/-- Call a function by its name with a variable as the first argument, which the
function may change. -/
def callOnVariable (name variableName : String) (variableSpot : Spot) (rest : List Value)
    (spot : Spot) : Run Value := do
  match ← find? variableName with
  | some place =>
      tick variableSpot
      let entry ← variableAt place
      let target ← flat entry.value
      let isCopy := entry.isConstant || entry.value matches .shared _
      let (value, changed) ← self.callNamed name (target :: rest) spot
      if let some new := changed then
        if !isCopy then store place new
      return value
  | none =>
      let target ← variableValue variableName variableSpot
      tick variableSpot
      return (← self.callNamed name (target :: rest) spot).1

def operation (symbol : String) (arguments : List Expr) (spot : Spot) : Run Value := do
  match arguments with
  | [left, right] =>
      let left ← self.flatValue left
      let right ← self.flatValue right
      self.operate symbol left right spot
  | [only] =>
      let value ← self.flatValue only
      match Operator.sign? symbol value with
      | some (.ok value) => return value
      | some (.error cause) => fail cause spot
      | none => return (← self.callNative symbol [value] spot).1
  | _ => fail (.noFunction symbol) spot

def callOf (name : String) (arguments : List Expr) (spot : Spot) : Run Value := do
  match name, arguments with
  | "call", function :: rest =>
      let value ← self.flatValue function
      if !value.isFunction then fail (.wrongType value.typeName "Fn") function.first
      let values ← rest.mapM self.flatValue
      return (← Library.invoke self value none values spot).1
  | "Fn", [argument] => pointer (← self.flatValue argument) argument.first
  | "curry", function :: argument :: rest =>
      let value ← self.flatValue function
      if !value.isFunction then fail (.wrongType value.typeName "Fn") function.first
      let values ← (argument :: rest).mapM self.flatValue
      return (← self.callNative "curry" (value :: values) spot).1
  | "is_def_var", [argument] =>
      match ← self.flatValue argument with
      | .text name => return .bool (← find? name).isSome
      | other => fail (.wrongType other.typeName "string") argument.first
  | "is_def_fn", [argument, arity] =>
      match ← self.flatValue argument, ← self.flatValue arity with
      | .text name, .int arity =>
          return .bool (decide (0 ≤ arity) && (← function? name arity.toNat).isSome)
      | .text _, other => fail (.wrongType other.typeName "i64") arity.first
      | other, _ => fail (.wrongType other.typeName "string") argument.first
  | "is_shared", [.reference first place] =>
      match ← find? first with
      | some place => return .bool ((← variableAt place).value matches .shared _)
      | none => fail (.noVariable first) place
  | _, .reference first place :: rest =>
      let values ← rest.mapM self.flatValue
      self.callOnVariable name first place values spot
  | _, _ =>
      let values ← arguments.mapM self.flatValue
      return (← self.callNamed name values spot).1

/-- A closure with the variables it takes from outside, which become shared. -/
def closureOf (name : String) (captured : List (String × Spot)) (spot : Spot) : Run Value := do
  if !captured.isEmpty then tick spot
  let bound ← captured.mapM fun (outer, place) => do
    tick place
    match ← find? outer with
    | some place => share place
    | none => fail (.noVariable outer) place
  return .function name bound

/-- Carry out the statements of a block, whose variables end with it. -/
def inBlock (body : Block) : Run Value := do
  let count := (← get).scope.size
  let value ← flat (← self.statements body.statements)
  forget count
  return value

def expressionOf (expr : Expr) : Run Value := do
  tick expr.spot
  match expr with
  | .literal value _ => return value
  | .template parts _ => return .text (← self.templateOf parts "")
  | .list items _ => return .list (← self.itemsOf items {} #[])
  | .map members _ => return .map (← self.membersOf members {} [])
  | .reference name spot => variableValue name spot
  | .this spot =>
      match (← get).this with
      | some value => return value
      | none => fail .noThis spot
  | .call name isOperator arguments spot =>
      if isOperator then self.operation name arguments spot
      else self.callOf name arguments spot
  | .both left right _ =>
    if ← self.holds left then .bool <$> self.holds right else return .bool false
  | .either left right _ =>
    if ← self.holds left then return .bool true else .bool <$> self.holds right
  | .coalesce left right _ =>
      match ← self.flatValue left with
      | .unit => self.expression right
      | value => return value
  | .chain root links => self.chain root links none
  | .closure name captured spot => closureOf name captured spot
  | .block body => self.inBlock body

end Interpreter

end PageInjection.Script
