import PageInjection.Sandbox.Limits
import PageInjection.Sandbox.Sink
import PageInjection.Script.Fault
import PageInjection.Script.Tree

/-!
# The state of a running script

Variables, shared cells, the count of operations and the output.  Every step of a
run is counted; a step beyond a limit ends the run.
-/

namespace PageInjection.Script

/-- Why a part of a script did not come to its end. -/
inductive Stop where
  | fault (fault : Fault)
  | nextRound
  | ended (value : Value)
  | returned (value : Value)
  | crashed (message : String)
deriving Inhabited

/-- A variable; a constant one cannot be changed. -/
structure Variable where
  name : String
  value : Value
  isConstant : Bool := false
deriving Inhabited

/-- What does not change during a run. -/
structure Setup where
  limits : Limits
  functions : List Function

/-- A remark a script makes for its author, and the spot where it makes it. -/
structure DebugNote where
  text : String
  spot : Spot
deriving DecidableEq, Repr

/-- What changes during a run.  The latest variable comes last; `acts` holds the
acts of printing and `notes` the remarks, both last first. -/
structure Machine where
  scope : Array Variable := #[]
  cells : Array Value := #[]
  this : Option Value := none
  level : Nat := 0
  operations : Nat := 0
  acts : List Write := []
  notes : List DebugNote := []
  sink : OutputSink

/-- A part of a run. -/
abbrev Run := ReaderT Setup (EStateM Stop Machine)

/-- How many operations fit into a millisecond. -/
def pace : Nat := 1000

namespace Run

def fail (cause : Cause) (spot : Spot) : Run α :=
  throw (.fault (.at cause (some spot)))

def isLate (limits : Limits) (operations : Nat) : Bool :=
  limits.milliseconds != 0 && limits.operations == 0 &&
    operations > limits.milliseconds.toNat * pace

def tick (spot : Spot) : Run Unit := do
  let limits := (← read).limits
  modify fun machine => { machine with operations := machine.operations + 1 }
  let machine ← get
  if limits.operations != 0 && machine.operations > limits.operations.toNat then
    fail .tooManyOperations spot
  if machine.sink.overflowed then fail (.halted .output) spot
  if isLate limits machine.operations then fail (.halted .time) spot

def print (act : Write) : Run Unit :=
  modify fun machine => { machine with sink := machine.sink.write act, acts := act :: machine.acts }

def remark (note : DebugNote) : Run Unit :=
  modify fun machine => { machine with notes := note :: machine.notes }

def display (value : Value) : Run String := do
  return Value.display (← get).cells value

def checkSize (value : Value) (spot : Spot) : Run Unit := do
  match value with
  | .text _ | .list _ | .map _ =>
      let limits := (← read).limits
      let size := Value.sizeOf Value.displayDepth value
      let exceeds (limit : UInt64) (amount : Nat) : Bool := limit != 0 && amount > limit.toNat
      if exceeds limits.stringBytes size.bytes then fail (.tooLarge .text) spot
      if exceeds limits.arrayItems size.items then fail (.tooLarge .list) spot
      if exceeds limits.mapMembers size.members then fail (.tooLarge .map) spot
  | _ => return ()

def flat (value : Value) : Run Value := do
  match value with
  | .shared cell => return (← get).cells.getD cell .unit
  | value => return value

/-- The place of the latest variable of a name among the first `count`. -/
def placeOf? (scope : Array Variable) (name : String) : (count : Nat) → Option Nat
  | 0 => none
  | count + 1 =>
      match scope[count]? with
      | some entry => if entry.name == name then some count else placeOf? scope name count
      | none => placeOf? scope name count

def find? (name : String) : Run (Option Nat) := do
  let scope := (← get).scope
  return placeOf? scope name scope.size

def variableAt (place : Nat) : Run Variable := do
  return (← get).scope.getD place ⟨"", .unit, false⟩

/-- Give a variable a new value; a shared one changes everywhere. -/
def store (place : Nat) (value : Value) : Run Unit :=
  modify fun machine =>
    match (machine.scope.getD place ⟨"", .unit, false⟩).value with
    | .shared cell => { machine with cells := machine.cells.setIfInBounds cell value }
    | _ => { machine with scope := machine.scope.modify place fun entry =>
        { entry with value } }

/-- Take the value of a variable out, so that nothing else holds it. -/
def takeOut (place : Nat) : Run Value :=
  modifyGet fun machine =>
    ((machine.scope.getD place ⟨"", .unit, false⟩).value,
      { machine with
        scope := machine.scope.modify place fun entry => { entry with value := .unit } })

/-- Whether the variable at a place holds a text of its own. -/
def holdsText (place : Nat) : Run Bool := do
  match (← variableAt place).value with
  | .text _ => return true
  | _ => return false

/-- Add a text to the end of a variable that holds one. -/
def appendText (place : Nat) (tail : String) (spot : Spot) : Run Unit := do
  let limit := (← read).limits.stringBytes
  let size := (Value.sizeOf 1 (← variableAt place).value).bytes
  if limit != 0 && size + tail.utf8ByteSize > limit.toNat then fail (.tooLarge .text) spot
  match ← takeOut place with
  | .text text => store place (.text (text ++ tail))
  | other => store place other

def declare (name : String) (value : Value) (isConstant : Bool) : Run Unit :=
  modify fun machine => { machine with scope := machine.scope.push ⟨name, value, isConstant⟩ }

def forget (count : Nat) : Run Unit :=
  modify fun machine => { machine with scope := machine.scope.shrink count }

/-- Make the variable at a place shared, and give its shared value. -/
def share (place : Nat) : Run Value := do
  let entry ← variableAt place
  match entry.value with
  | .shared cell => return .shared cell
  | value =>
      let cell := (← get).cells.size
      modify fun machine => { machine with
        cells := machine.cells.push value
        scope := machine.scope.modify place fun entry => { entry with value := .shared cell } }
      return .shared cell

/-- The function of the script with a name and a number of parameters. -/
def function? (name : String) (arity : Nat) : Run (Option Function) := do
  return (← read).functions.find? fun function =>
    function.name == name && function.parameters.length == arity

end Run

/-- How the parts of a script are carried out. -/
structure Interpreter where
  /-- The value of an expression. -/
  expression : Expr → Run Value
  /-- Carry out the statements of a block; the value of the last one counts. -/
  statements : List Stmt → Run Value
  /-- Call a function of the script with the value it is called on, if there is
  one; the value may change. -/
  call : Function → (this : Option Value) → (arguments : List Value) → Spot →
    Run (Value × Option Value)
  /-- Call a function of the library; its first argument may change. -/
  native : (name : String) → (arguments : List Value) → Spot → Run (Value × Option Value)

/-- A function of the library, chosen by its name and its arguments: one that
only reads its first argument, or one that also gives it a new value. -/
inductive Native where
  | reads (run : Run Value)
  | writes (run : Run (Value × Value))

/-- Whether a function of the library gives its first argument a new value. -/
def Native.isWriting : Native → Bool
  | .reads _ => false
  | .writes _ => true

/-- The name and the argument types of a call that found no function. -/
def signature (name : String) (arguments : List Value) : String :=
  name ++ " (" ++ ", ".intercalate (arguments.map Value.signatureName) ++ ")"

end PageInjection.Script
