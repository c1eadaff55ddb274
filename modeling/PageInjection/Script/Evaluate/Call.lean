import PageInjection.Script.Library.Map

/-!
# Calls

How functions of the script and of the library are called, and how operators are
carried out.
-/

namespace PageInjection.Script

namespace Run

/-- Carry out a part and take its end as a value. -/
def attempt (part : Run α) : Run (Except Stop α) := fun setup machine =>
  match part setup machine with
  | .ok value machine => .ok (.ok value) machine
  | .error stop machine => .ok (.error stop) machine

def placed (spot : Spot) (part : Run α) : Run α := fun setup machine =>
  match part setup machine with
  | .error (.fault fault) machine => .error (.fault (fault.placed spot)) machine
  | other => other

end Run

namespace Interpreter

open Run

variable (self : Interpreter)

/-- Call a function of the script.  Its variables are its own; a fault inside
names the function, unless it is final. -/
def callFunction (function : Function) (this : Option Value) (arguments : List Value)
    (spot : Spot) : Run (Value × Option Value) := do
  if function.body.statements.isEmpty then return (.unit, none)
  tick spot
  let setup ← read
  let level := (← get).level
  if level + 1 > setup.limits.depth then fail .tooDeep spot
  let scope := (← get).scope
  let outer := (← get).this
  let own := (function.parameters.zip arguments).map fun (name, value) =>
    (⟨name, value, false⟩ : Variable)
  modify fun machine => { machine with scope := own.toArray, this := this, level := level + 1 }
  let result ← attempt (self.statements function.body.statements)
  let changed := (← get).this
  modify fun machine => { machine with scope := scope, this := outer, level := level }
  match result with
  | .ok value | .error (.returned value) => return (← flat value, changed)
  | .error (.fault fault) =>
      if fault.cause.isFinal then throw (.fault (fault.moved (some spot)))
      else throw (.fault (.within function.name fault (some spot)))
  | .error other => throw other

def callNative (name : String) (arguments : List Value) (spot : Spot) :
    Run (Value × Option Value) := do
  match Library.native? self name arguments spot with
  | none => fail (.noFunction (signature name arguments)) spot
  | some (.reads run) =>
      let value ← placed spot run
      checkSize value spot
      return (value, none)
  | some (.writes run) =>
      let (value, new) ← placed spot run
      checkSize value spot
      checkSize new spot
      return (value, some new)

/-- Call a function by its name: one of the script, or else one of the library. -/
def callNamed (name : String) (arguments : List Value) (spot : Spot) :
    Run (Value × Option Value) := do
  match ← function? name arguments.length with
  | some function => return ((← self.call function none arguments spot).1, none)
  | none => self.callNative name arguments spot

/-- Call something on a value.  The value may be a function that is called, or a
map that holds the function; otherwise the name counts. -/
def callMethod (name : String) (target : Value) (isConstant : Bool) (arguments : List Value)
    (spot : Spot) : Run (Value × Option Value) := do
  let onTarget (function : Value) (arguments : List Value) : Run (Value × Option Value) :=
    Library.invoke self function (some target) arguments spot
  let member? : Option Value := match target with
    | .map members => (Value.memberOf? name members).filter Value.isFunction
    | _ => none
  let native : Run (Value × Option Value) := do
    let found := Library.native? self name (target :: arguments) spot
    if isConstant && (found.any Native.isWriting) then fail (.constantMethod name) spot
    self.callNative name (target :: arguments) spot
  match name, target, arguments with
  | "call", .function _ _, _ =>
      return ((← Library.invoke self target none arguments spot).1, none)
  | "call", _, function :: rest => onTarget function rest
  | "call", _, [] => fail (.wrongType target.typeName "Fn") spot
  | _, _, _ =>
      match member? with
      | some function => onTarget function arguments
      | none =>
          match ← function? name arguments.length with
          | some function => self.call function (some target) arguments spot
          | none => native

/-- The value of an operator between two values. -/
def operate (symbol : String) (left right : Value) (spot : Spot) : Run Value := do
  match Operator.plain? symbol left right with
  | some (.ok (.text value)) =>
      checkSize (.text value) spot
      return .text value
  | some (.ok value) => return value
  | some (.error cause) => fail cause spot
  | none => return (← self.callNative symbol [left, right] spot).1

/-- The new value of a place to which an operator assigns. -/
def operateInPlace (symbol : String) (left right : Value) (spot : Spot) : Run Value := do
  match Operator.plain? symbol left right with
  | some _ => self.operate symbol left right spot
  | none =>
      match Library.native? self (symbol ++ "=") [left, right] spot with
      | some (.writes run) =>
          let (_, new) ← placed spot run
          checkSize new spot
          return new
      | _ => self.operate symbol left right spot

end Interpreter

end PageInjection.Script
