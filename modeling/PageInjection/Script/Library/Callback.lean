import PageInjection.Script.Library.Text

/-!
# Calling back

How functions of the library call a function they were given.  The item in hand
is an argument, or what the function is called on, as the number of parameters
says; a function with more parameters also gets something extra.
-/

namespace PageInjection.Script.Library

variable (self : Interpreter)

/-- Call a function value, on a value if there is one. -/
def invoke (function : Value) (this : Option Value) (arguments : List Value) (spot : Spot) :
    Run (Value × Option Value) := do
  match function with
  | .function name bound =>
      let arguments := bound ++ arguments
      match ← Run.function? name arguments.length with
      | some found => self.call found this arguments spot
      | none => self.native name (this.toList ++ arguments) spot
  | other => Run.fail (.wrongType other.typeName "Fn") spot

/-- A function value; a text stands for the function of this name. -/
def named? : Value → Option Value
  | .function name bound => some (.function name bound)
  | .text name => some (.function name [])
  | _ => none

def function? (value : Value) : Option Value :=
  if value.isFunction then some value else none

/-- How many arguments a function value takes beyond the bound ones. -/
def arities (function : Value) : Run (List Nat) := do
  match function with
  | .function name bound =>
      return (← read).functions.filterMap fun found =>
        if found.name == name then some (found.parameters.length - bound.length) else none
  | _ => return []

/-- Call a function of the library with the first arguments it is there for. -/
def callFirst (name : String) (spot : Spot) : List (List Value) → Run (Value × Option Value)
  | [] => Run.fail (.noFunction name) spot
  | [arguments] => self.native name arguments spot
  | arguments :: others => fun setup machine =>
      match self.native name arguments spot setup machine with
      | .error (.fault (.at (.noFunction missing) place)) after =>
          if missing == signature name arguments then callFirst name spot others setup machine
          else .error (.fault (.at (.noFunction missing) place)) after
      | other => other

/-- Call a function for an item, with what stands before the item and something
extra behind it; if the function is called on the item, the item may change. -/
def visit (function : Value) (before : List Value) (item : Value) (extra : List Value)
    (spot : Spot) : Run (Value × Option Value) := do
  let arities ← arities function
  let count := before.length
  let whole := before ++ item :: extra
  if arities.contains count then invoke self function (some item) before spot
  else if arities.contains (count + 1) then invoke self function none (before ++ [item]) spot
  else if arities.contains whole.length then invoke self function none whole spot
  else if arities.contains (count + extra.length) then
    invoke self function (some item) (before ++ extra) spot
  else
    match function, arities with
    | .function name bound, [] =>
        callFirst self name spot [item :: (bound ++ before), bound ++ before ++ [item],
          bound ++ whole]
    | function, _ => invoke self function none whole spot

def apply (function : Value) (before : List Value) (item : Value) (extra : List Value)
    (spot : Spot) : Run Value := do
  return (← visit self function before item extra spot).1

/-- The truth of a value; other values are false. -/
def isTrue : Value → Bool
  | .bool value => value
  | _ => false

/-- Call a function on each item, until there is a result. -/
def firstOf (test : α → Run (Option β)) : List α → Run (Option β)
  | [] => return none
  | item :: items => do
      match ← test item with
      | some found => return some found
      | none => firstOf test items

/-- What a function of the script says about the order of two items; where it
fails, neither comes first. -/
def ordered (function : Value) (spot : Spot) (left right : Value) : Run Bool :=
  fun setup machine =>
    match invoke self function none [left, right] spot setup machine with
    | .ok (.int order, _) machine => .ok (order < 0) machine
    | .ok (.bool isLess, _) machine => .ok isLess machine
    | .ok _ machine => .ok false machine
    | .error (.fault _) machine => .ok false machine
    | .error stop machine => .error stop machine

end PageInjection.Script.Library
