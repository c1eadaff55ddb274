import PageInjection.Script.Tree

/-!
# Faults of a running script

Why a script stops.  A fault has a cause and, usually, a spot; a fault inside a
function of the script also names the calls it went through.
-/

namespace PageInjection.Script

/-- The kinds of values that can grow beyond a limit. -/
inductive Growth where
  | text
  | list
  | map
deriving DecidableEq, Repr

/-- What stops a script from outside. -/
inductive Halt where
  | output
  | time
deriving DecidableEq, Repr

/-- What went wrong. -/
inductive Cause where
  | noVariable (name : String)
  | noFunction (signature : String)
  | noThis
  | noGetter (property type : String)
  | noSetter (property type value : String)
  | noIndexer (signature : String)
  | listBounds (length : Nat) (index : Int)
  | textBounds (length : Nat) (index : Int)
  | bitBounds (index : Int)
  | wrongType (found expected : String)
  | notIterable
  | arithmetic (message : String)
  | constant (name : String)
  | constantMethod (name : String)
  | thrown (value : Value) (text : String)
  | tooLarge (growth : Growth)
  | tooDeep
  | tooManyOperations
  | halted (halt : Halt)
deriving Inhabited

namespace Cause

/-- The end of a message about an index: how many things there are. -/
def only (length : Nat) (one many place : String) : String :=
  if length = 0 then place ++ " is empty"
  else if length = 1 then "only 1 " ++ one ++ " in " ++ place
  else "only " ++ toString length ++ " " ++ many ++ " in " ++ place

def message : Cause → String
  | noVariable name => "Variable not found: " ++ name
  | noFunction signature => "Function not found: " ++ signature
  | noThis => "'this' not bound"
  | noGetter property type =>
      "Unknown property '" ++ property ++ "' - a getter is not registered for type '" ++ type ++ "'"
  | noSetter property type value =>
      "No writable property '" ++ property ++ "' - a setter is not registered for type '" ++ type ++
        "' to handle '" ++ value ++ "'"
  | noIndexer signature => "Indexer unavailable: " ++ signature
  | listBounds length index =>
      "Array index " ++ toString index ++ " out of bounds: " ++
        only length "element" "elements" "array"
  | textBounds length index =>
      "String index " ++ toString index ++ " out of bounds: " ++
        only length "character" "characters" "string"
  | bitBounds index =>
      "Bit-field index " ++ toString index ++ " out of bounds: only 64 bits in bit-field"
  | wrongType found expected =>
      "Data type incorrect: " ++ found ++ " (expecting " ++ expected ++ ")"
  | notIterable => "For loop expects an iterable type"
  | arithmetic message => message
  | constant name => "Cannot modify constant " ++ name
  | constantMethod name => "Non-pure method '" ++ name ++ "' cannot be called on constant"
  | thrown _ text => if text.isEmpty then "Runtime error" else "Runtime error: " ++ text
  | tooLarge .text => "Length of string too large"
  | tooLarge .list => "Size of array/BLOB too large"
  | tooLarge .map => "Size of object map too large"
  | tooDeep => "Stack overflow"
  | tooManyOperations => "Too many operations"
  | halted _ => "Script terminated"

def isFinal : Cause → Bool
  | tooLarge _ | tooDeep | tooManyOperations | halted _ => true
  | _ => false

/-- The name of a cause, for a script that caught it. -/
def name : Cause → String
  | noVariable _ => "ErrorVariableNotFound"
  | noFunction _ => "ErrorFunctionNotFound"
  | noThis => "ErrorUnboundThis"
  | noGetter _ _ | noSetter _ _ _ => "ErrorDotExpr"
  | noIndexer _ => "ErrorIndexingType"
  | listBounds _ _ => "ErrorArrayBounds"
  | textBounds _ _ => "ErrorStringBounds"
  | bitBounds _ => "ErrorBitFieldBounds"
  | wrongType _ _ => "ErrorMismatchDataType"
  | notIterable => "ErrorFor"
  | arithmetic _ => "ErrorArithmetic"
  | constant _ => "ErrorAssignmentToConstant"
  | constantMethod _ => "ErrorNonPureMethodCallOnConstant"
  | thrown _ _ => "ErrorRuntime"
  | tooLarge _ => "ErrorDataTooLarge"
  | tooDeep => "ErrorStackOverflow"
  | tooManyOperations => "ErrorTooManyOperations"
  | halted _ => "ErrorTerminated"

/-- Details of a cause, for a script that caught it. -/
def details : Cause → List (String × Value)
  | noVariable name | constant name => [("variable", .text name)]
  | noFunction signature => [("function", .text signature)]
  | noGetter property _ | noSetter property _ _ => [("property", .text property)]
  | noIndexer signature => [("type", .text signature)]
  | listBounds length index | textBounds length index =>
      [("index", .int index), ("length", .int length)]
  | bitBounds index => [("index", .int index), ("length", .int 64)]
  | wrongType found expected => [("actual", .text found), ("requested", .text expected)]
  | _ => []

end Cause

/-- A cause at a spot, inside any number of calls. -/
inductive Fault where
  | at (cause : Cause) (spot : Option Spot)
  | within (function : String) (fault : Fault) (spot : Option Spot)
deriving Inhabited

namespace Fault

def cause : Fault → Cause
  | .at cause _ => cause
  | .within _ fault _ => fault.cause

def spot? : Fault → Option Spot
  | .at _ spot => spot
  | .within _ _ spot => spot

def moved (spot : Option Spot) : Fault → Fault
  | .at cause _ => .at cause spot
  | .within function fault _ => .within function fault spot

def placed (spot : Spot) (fault : Fault) : Fault :=
  if fault.spot?.isNone then fault.moved (some spot) else fault

/-- The text of a spot, which may be missing. -/
def suffix (spot : Option Spot) : String :=
  (spot.map Spot.suffix).getD ""

def message : Fault → String
  | .at cause spot => cause.message ++ suffix spot
  | .within function fault spot =>
      fault.message ++
        (if function.startsWith closureMark then "\nin closure call"
          else "\nin call to function '" ++ function ++ "'") ++ suffix spot

/-- What a script gets that caught the fault. -/
def caught (fault : Fault) : Value :=
  match fault.cause with
  | .thrown value _ => value
  | cause =>
      let place := match fault.spot? with
        | some spot => [("line", Value.int spot.line), ("position", .int spot.column)]
        | none => []
      let members := ("error", .text cause.name) :: ("message", .text (fault.moved none).message) ::
        (cause.details ++ place)
      .map (members.foldl (fun map (name, value) => Value.putMember name value map) [])

end Fault

end PageInjection.Script
