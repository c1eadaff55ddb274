import PageInjection.Sandbox.Limits
import PageInjection.Script.Token
import PageInjection.Script.Tree

/-!
# Reading a script

The state of a reader of tokens, the faults it reports, and its small steps.
The grammar is given as a record of productions: every production is written in
terms of the productions for its parts, and the knot is tied by counting how deep
they nest.
-/

namespace PageInjection.Script

/-- Why a script cannot be read. -/
inductive SyntaxFault where
  | lexical (fault : TokenFault)
  | incomplete
  | missing (token purpose : String)
  | unexpected (token : String)
  | reserved (word : String)
  | unknownOperator (symbol : String)
  | noVariableName
  | noPropertyName
  | noFunctionName
  | noParameters (function : String)
  | noBody (function : String)
  | wanted (what : String)
  | wantedNot (what found : String)
  | badIndex (message : String)
  | constantName (name : String)
  | constantValue
  | notAssignable
  | outsideLoop
  | nestedFunction
  | repeatedFunction (name : String) (parameters : Nat)
  | repeatedParameter (function name : String)
  | repeatedProperty (name : String)
  | repeatedVariable (name : String)
  | repeatedDefault
  | earlyDefault
  | conditionalDefault
  | improper (message : String)
  | literalTooLarge (what : String) (limit : Nat)
deriving DecidableEq, Repr

def reservedKind (word : String) : String :=
  if word.toList.all fun c => c.isAlphanum || c == '_' then "keyword" else "symbol"

def SyntaxFault.message : SyntaxFault → String
  | .lexical fault => fault.message
  | .incomplete => "Script is incomplete"
  | .missing token purpose => "Expecting '" ++ token ++ "' " ++ purpose
  | .unexpected token => "Unexpected '" ++ token ++ "'"
  | .reserved word => "'" ++ word ++ "' is a reserved " ++ reservedKind word
  | .unknownOperator symbol => "Unknown operator: '" ++ symbol ++ "'"
  | .noVariableName => "Expecting name of a variable"
  | .noPropertyName => "Expecting name of a property"
  | .noFunctionName => "Expecting function name in function declaration"
  | .noParameters function => "Expecting parameters for function " ++ function
  | .noBody function => "Expecting body statement block for function " ++ function
  | .wanted what => "Expecting " ++ what ++ " expression"
  | .wantedNot what found => "Expecting " ++ what ++ ", not " ++ found
  | .badIndex message => message
  | .constantName name => "Cannot assign to constant " ++ name
  | .constantValue => "Cannot assign to a constant value"
  | .notAssignable => "Expression cannot be assigned to"
  | .outsideLoop => "Break statement should only be used inside a loop"
  | .nestedFunction =>
      "Function definitions must be at global level and cannot be inside a block or " ++
        "another function"
  | .repeatedFunction name parameters =>
      "Function " ++ name ++ " with " ++
        (if parameters = 0 then "no parameters already exists"
          else if parameters = 1 then "1 parameter already exists"
          else toString parameters ++ " parameters already exists")
  | .repeatedParameter function name =>
      "Duplicated parameter " ++ name ++ " for function " ++ function
  | .repeatedProperty name => "Duplicated property for object map literal: " ++ name
  | .repeatedVariable name => "Duplicated variable name: " ++ name
  | .repeatedDefault => "Duplicated switch case"
  | .earlyDefault => "Default switch case must be the last"
  | .conditionalDefault => "This switch case cannot have a condition"
  | .improper message => message
  | .literalTooLarge what limit => what ++ " exceeds the maximum limit (" ++ toString limit ++ ")"

/-- A fault and where it was noticed. -/
structure Misreading where
  fault : SyntaxFault
  spot : Spot
deriving DecidableEq, Repr

def Misreading.message (misreading : Misreading) : String :=
  "Syntax error: " ++ misreading.fault.message ++ misreading.spot.suffix

/-- What a reader knows: the tokens ahead, the variables of the function at hand
with their constancy, the names its closure takes from outside, and the functions
read so far, last first. -/
structure Reading where
  limits : Limits
  lexemes : List Lexeme
  names : List (String × Bool) := []
  captured : List (String × Spot) := []
  functions : List Function := []

/-- Where in the script a production is used. -/
structure Setting where
  atTop : Bool := false
  inFunction : Bool := false
  inClosure : Bool := false
  inLoop : Bool := false
  barEnds : Bool := false

/-- A reader of a part of a script. -/
abbrev Parse := StateT Reading (Except Misreading)

/-- The productions that others build on. -/
structure Grammar where
  expression : Setting → Parse Expr
  operation : Setting → Nat → Expr → Parse Expr
  unary : Setting → Parse Expr
  statement : Setting → Parse Stmt
  block : Setting → Parse Block
  branch : Setting → Parse Stmt

namespace Parse

def fail (fault : SyntaxFault) (spot : Spot) : Parse α :=
  fun _ => .error ⟨fault, spot⟩

def peek : Parse Lexeme := do
  return (← get).lexemes.headD ⟨.finish, .start⟩

/-- Take the token ahead; the end of the script stays. -/
def next : Parse Lexeme := do
  let reading ← get
  match reading.lexemes with
  | [] => return ⟨.finish, .start⟩
  | [last] => return last
  | lexeme :: lexemes =>
      set { reading with lexemes }
      return lexeme

def ahead : Parse Nat := do
  return (← get).lexemes.length

def sees (mark : String) : Parse Bool := do
  match (← peek).token with
  | .mark word => return word == mark
  | _ => return false

def accepts (mark : String) : Parse Bool := do
  if ← sees mark then
    let _ ← next
    return true
  else return false

/-- Report what is ahead: a broken token as it is, all else as the fault. -/
def complain (fault : SyntaxFault) : Parse α := do
  let lexeme ← peek
  match lexeme.token with
  | .fault reason => fail (.lexical reason) lexeme.spot
  | _ => fail fault lexeme.spot

def expect (mark purpose : String) : Parse Spot := do
  if ← sees mark then return (← next).spot
  else complain (.missing mark purpose)

def many (item : Parse (Option α)) : (fuel : Nat) → Parse (List α)
  | 0 => return []
  | fuel + 1 => do
      match ← item with
      | some value => return value :: (← many item fuel)
      | none => return []

def all (item : Parse (Option α)) : Parse (List α) := do
  many item (← ahead)

def variableName : Parse (String × Spot) := do
  let lexeme ← next
  match lexeme.token with
  | .name word => return (word, lexeme.spot)
  | .reserved word =>
      if reservedKind word == "keyword" then fail (.reserved word) lexeme.spot
      else fail .noVariableName lexeme.spot
  | .fault reason => fail (.lexical reason) lexeme.spot
  | _ => fail .noVariableName lexeme.spot

def declare (name : String) (isConstant : Bool) : Parse Unit :=
  modify fun reading => { reading with names := (name, isConstant) :: reading.names }

/-- Read a part whose variables are not known outside. -/
def apart (part : Parse α) : Parse α := do
  let names := (← get).names
  let value ← part
  modify fun reading => { reading with names }
  return value

/-- Note the use of a variable: a closure takes it from outside when it has none
of its own. -/
def use (setting : Setting) (name : String) (spot : Spot) : Parse Unit := do
  let reading ← get
  if setting.inClosure && (reading.names.lookup name).isNone &&
      (reading.captured.lookup name).isNone then
    set { reading with captured := reading.captured ++ [(name, spot)] }

/-- Refuse a block where an expression must stand. -/
def refuseBlock (what : String) : Parse Unit := do
  if ← sees "\x7b" then fail (.wanted what) (← peek).spot

/-- Whether a mark assigns the result of an operator. -/
def isOperatorAssignment (mark : String) : Bool :=
  ["+=", "-=", "*=", "/=", "**=", "%=", "<<=", ">>=", "&=", "|=", "^="].contains mark

/-- Refuse an assignment where a condition must stand. -/
def refuseAssignment : Parse Unit := do
  let lexeme ← peek
  match lexeme.token with
  | .mark "=" => fail (.improper "Possibly a typo of '=='?") lexeme.spot
  | .mark mark =>
      if isOperatorAssignment mark then
        fail (.improper "Expecting a boolean expression, not an assignment") lexeme.spot
  | _ => return ()

end Parse

end PageInjection.Script
