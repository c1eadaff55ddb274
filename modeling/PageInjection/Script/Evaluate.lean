import PageInjection.Script.Evaluate.Statement
import PageInjection.Script.Grammar.Statement
import PageInjection.Script.Simplify

/-!
# Running a script

The interpreter ties the parts of the language together; how deep it may nest is
counted.  A run ends in one of a few ways, and its transcript holds what it
printed and how it ended.
-/

namespace PageInjection.Script

/-- The interpreter for parts that nest up to a depth. -/
def Interpreter.toDepth : Nat → Interpreter
  | 0 =>
      { expression := fun expr => Run.fail .tooDeep expr.spot
        statements := fun _ => throw (.fault (.at .tooDeep none))
        call := fun _ _ _ spot => Run.fail .tooDeep spot
        native := fun _ _ spot => Run.fail .tooDeep spot }
  | depth + 1 =>
      { expression := fun expr => (toDepth depth).expressionOf expr
        statements := fun statements => (toDepth depth).carryOutAll statements
        call := fun function this arguments spot =>
          (toDepth depth).callFunction function this arguments spot
        native := fun name arguments spot => (toDepth depth).callNative name arguments spot }

/-- How a run ended. -/
inductive Ending where
  | finished
  | misread (message : String)
  | thrown (text : String)
  | failed (message : String)
  | limited (message : String)
  | halted (halt : Halt)
  | crashed (message : String)
  | notStarted (reason : String)
deriving DecidableEq, Repr

/-- What a run printed, how it ended, and the remarks it made. -/
structure Transcript where
  writes : List Write
  ending : Ending
  notes : List DebugNote := []
deriving DecidableEq, Repr

def Stop.ending : Stop → Ending
  | .nextRound | .ended _ | .returned _ => .finished
  | .crashed message => .crashed message
  | .fault (.at (.thrown _ text) _) => .thrown text
  | .fault (.at (.halted halt) _) => .halted halt
  | .fault other => if other.cause.isFinal then .limited other.message else .failed other.message

def Program.run (limits : Limits) (constants : List (String × Value)) (program : Program) :
    Transcript :=
  let known : Known := constants.map fun (name, value) => (name, some value)
  let program := program.simplified limits known
  let scope := constants.map fun (name, value) => (⟨name, value, true⟩ : Variable)
  let machine : Machine := { scope := scope.toArray, sink := { limit := limits.outputBytes.toNat } }
  let setup : Setup := ⟨limits, program.functions⟩
  match (Interpreter.toDepth manyRounds).statements program.statements setup machine with
  | .ok _ machine => ⟨machine.acts.reverse, .finished, machine.notes.reverse⟩
  | .error stop machine => ⟨machine.acts.reverse, stop.ending, machine.notes.reverse⟩

def transcript (limits : Limits) (constants : List (String × Value)) (script : String) :
    Transcript :=
  match Program.read limits script with
  | .ok program => program.run limits constants
  | .error misreading => { writes := [], ending := .misread misreading.message }

end PageInjection.Script
