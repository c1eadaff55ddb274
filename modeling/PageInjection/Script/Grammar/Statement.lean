import PageInjection.Script.Grammar.Expression
import PageInjection.Script.Token.Scan

/-!
# The grammar of statements

Blocks, declarations, assignments, branches, loops and functions, and the reading
of a whole script.
-/

namespace PageInjection.Script

namespace Stmt

/-- Whether a statement needs no semicolon behind it. -/
def endsItself : Stmt → Bool
  | branch _ _ _ _ | choose _ _ _ | loop _ _ _ | each _ _ _ _ _ | attempt _ _ _ _ | block _ => true
  | _ => false

end Stmt

namespace Grammar

open Parse

variable (self : Grammar)

/-- Statements up to the end of a block, after its opening bracket. -/
def blockStatements (setting : Setting) : (fuel : Nat) → Parse (List Stmt)
  | 0 => return []
  | fuel + 1 => do
      if ← accepts "\x7d" then return []
      if (← peek).token matches .finish then
        complain (.missing "\x7d" "to terminate this block")
      let statement ← self.statement setting
      if statement.isNothing then blockStatements setting fuel
      else if ← accepts "\x7d" then return [statement]
      else if ← accepts ";" then return statement :: (← blockStatements setting fuel)
      else if statement.endsItself then return statement :: (← blockStatements setting fuel)
      else complain (.missing ";" "to terminate this statement")

def blockOf (setting : Setting) : Parse Block := do
  let spot ← expect "\x7b" "to start a statement block"
  let fuel ← ahead
  let statements ← apart (self.blockStatements { setting with atTop := false } (fuel + 1))
  return .of statements spot

def condition (setting : Setting) : Parse Expr := do
  refuseBlock "a boolean"
  let condition ← (← self.expression setting).ensureCondition
  refuseAssignment
  return condition

def branchOf (setting : Setting) : Parse Stmt := do
  let spot := (← next).spot
  let condition ← self.condition setting
  let body ← self.block setting
  if ← accepts "else" then
    if ← sees "if" then
      let other ← self.branch setting
      return .branch condition body (.of [other] other.spot) spot
    else return .branch condition body (← self.block setting) spot
  else return .branch condition body (.of [] spot) spot

/-- The labels of a case, which are literals. -/
def labels (setting : Setting) : (fuel : Nat) → Parse (List Expr)
  | 0 => return []
  | fuel + 1 => do
      let label ← fun reading =>
        match (self.expression { setting with barEnds := true }).run reading with
        | .ok found => .ok found
        | .error misreading => .error ⟨.wanted "literal", misreading.spot⟩
      if ← accepts "|" then return label :: (← labels setting fuel)
      else return [label]

def labelValue (label : Expr) : Parse Value :=
  match label with
  | .call ".." true [.literal (.int first) _, .literal (.int last) _] _ =>
      return .range first last false
  | .call "..=" true [.literal (.int first) _, .literal (.int last) _] _ =>
      return .range first last true
  | _ =>
      match label.value? with
      | some value => return value
      | none => fail (.wanted "a literal") label.first

/-- What a case does, after its labels. -/
def caseBody (setting : Setting) : Parse Expr := do
  let _ ← expect "=>" "in this switch case"
  let statement ← self.statement { setting with atTop := false }
  let spot := statement.spot
  let body := Expr.block <| match statement with
    | .block block => block
    | .nothing _ => .of [] spot
    | other => .of [other] spot
  if ← accepts "," then return body
  else if ← sees "\x7d" then return body
  else if (← peek).token matches .finish then
    complain (.missing "\x7d" "to end this switch block")
  else if statement.endsItself then return body
  else complain (.missing "," "to separate the items in this switch block")

/-- The cases of a choice, after the opening bracket; `seen` is the spot of the
default case, once there was one. -/
def cases (setting : Setting) : (fuel : Nat) → (seen : Option Spot) → Parse (List Case)
  | 0, _ => return []
  | fuel + 1, seen => do
      if ← accepts "\x7d" then return []
      let lexeme ← peek
      match lexeme.token, seen with
      | .finish, _ => complain (.missing "\x7d" "to end this switch block")
      | .mark "_", none =>
          let _ ← next
          if ← sees "if" then fail .conditionalDefault (← peek).spot
          let body ← self.caseBody setting
          return .of [] none body :: (← cases setting fuel (some lexeme.spot))
      | .mark "_", some _ => fail .repeatedDefault lexeme.spot
      | _, some spot => fail .earlyDefault spot
      | _, none =>
          let labels ← self.labels setting (← ahead)
          let condition ←
            if ← accepts "if" then some <$> self.condition setting else pure none
          let body ← self.caseBody setting
          let values ← labels.mapM labelValue
          return .of values condition body :: (← cases setting fuel none)

def choice (setting : Setting) : Parse Stmt := do
  let spot := (← next).spot
  let subject ← self.expression setting
  let _ ← expect "\x7b" "to start a switch block"
  return .choose subject (← self.cases setting (← ahead) none) spot

/-- A loop with its condition in front, or with none. -/
def loopOf (setting : Setting) (isEndless : Bool) : Parse Stmt := do
  let spot := (← next).spot
  let condition ← if isEndless then pure none else some <$> self.condition setting
  return .loop condition (← self.block { setting with inLoop := true }) spot

def repetition (setting : Setting) : Parse Stmt := do
  let spot := (← next).spot
  let body ← self.block { setting with inLoop := true }
  let ends ←
    if ← accepts "while" then pure false
    else if ← accepts "until" then pure true
    else fail (.missing "while" "for the do statement") (← peek).spot
  let condition ← self.condition { setting with inLoop := false }
  return .repeat body condition ends spot

def loopNames : Parse (String × Option String) := do
  if ← accepts "(" then
    let (name, _) ← variableName
    if !(← accepts ",") then
      fail (.missing "," "after the iteration variable name") (← peek).spot
    let (counter, spot) ← variableName
    if counter == name then fail (.repeatedVariable counter) spot
    if !(← accepts ")") then
      fail (.missing ")" "to close the iteration variable") (← peek).spot
    return (name, some counter)
  else
    let (name, _) ← variableName
    return (name, none)

def iteration (setting : Setting) : Parse Stmt := do
  let spot := (← next).spot
  let (name, counter) ← loopNames
  let _ ← expect "in" "after the iteration variable"
  refuseBlock "a boolean"
  let source ← (← self.expression setting).ensureIterable
  let body ← apart do
    if let some counter := counter then declare counter false
    declare name false
    self.block { setting with inLoop := true }
  return .each name counter source body spot

def attemptOf (setting : Setting) : Parse Stmt := do
  let spot := (← next).spot
  let body ← self.block setting
  if !(← accepts "catch") then
    fail (.missing "catch" "for the 'try' statement") (← peek).spot
  let (name, handler) ← apart do
    if ← accepts "(" then
      let (name, _) ← variableName
      if !(← accepts ")") then
        fail (.missing ")" "to enclose the catch variable") (← peek).spot
      declare name false
      return (some name, ← self.block setting)
    else return (none, ← self.block setting)
  return .attempt body name handler spot

def declaration (setting : Setting) (isConstant : Bool) : Parse Stmt := do
  let spot := (← next).spot
  let (name, nameSpot) ← variableName
  let value ←
    if ← accepts "=" then self.expression setting else pure (.literal .unit nameSpot)
  declare name isConstant
  return .declare isConstant name value spot

/-- What may stand behind `return`, `throw` or `break`. -/
def result (setting : Setting) : Parse (Option Expr) := do
  let lexeme ← peek
  match lexeme.token with
  | .finish | .mark ";" => return none
  | .mark "\x7d" => if setting.atTop then some <$> self.expression setting else return none
  | _ => some <$> self.expression setting

/-- The first link of a chain that forbids to assign to it. -/
def callIn? : List Link → Option Spot
  | [] => none
  | .method _ _ _ _ spot :: _ => some spot
  | _ :: links => callIn? links

/-- Refuse to assign to what cannot be assigned to. -/
def ensureTarget (target : Expr) (isPlain : Bool) (spot : Spot) : Parse Unit := do
  match target with
  | .this _ => return ()
  | .reference name nameSpot =>
      if (← get).names.lookup name == some true then fail (.constantName name) nameSpot
  | .chain root links =>
      match callIn? links, root with
      | some spot, _ => fail .notAssignable spot
      | none, .reference _ _ | none, .this _ => return ()
      | none, other => fail .notAssignable other.spot
  | other =>
      if other.value?.isSome then fail .constantValue other.first
      match other with
      | .both _ _ _ | .either _ _ _ | .coalesce _ _ _ =>
          if isPlain then fail (.improper "Possibly a typo of '=='?") spot
          else fail .notAssignable other.spot
      | _ => fail .notAssignable other.spot

def plain (setting : Setting) : Parse Stmt := do
  let target ← self.expression setting
  let lexeme ← peek
  let assignment (operator : Option String) : Parse Stmt := do
    let _ ← next
    let value ← self.expression setting
    ensureTarget target operator.isNone lexeme.spot
    return .assign target operator value lexeme.spot
  match lexeme.token with
  | .mark "=" => assignment none
  | .mark mark =>
      if isOperatorAssignment mark then assignment (some (mark.dropEnd 1).toString)
      else return .expression target
  | _ => return .expression target

/-- The parameters of a function, after the opening bracket. -/
def parameters (name : String) (done : List String) : (fuel : Nat) → Parse (List String)
  | 0 => return done
  | fuel + 1 => do
      if ← accepts ")" then return done
      let lexeme ← peek
      match lexeme.token with
      | .name word =>
          if done.contains word then fail (.repeatedParameter name word) lexeme.spot
          let _ ← next
          let done := done ++ [word]
          if ← accepts ")" then return done
          let _ ← expect "," ("to separate the parameters of function '" ++ name ++ "'")
          parameters name done fuel
      | _ => complain (.missing ")" ("to close the parameters list of function '" ++ name ++ "'"))

/-- A function, after the keyword at `spot`. -/
def functionOf (spot : Spot) : Parse Stmt := do
  let lexeme ← next
  let name ← match lexeme.token with
    | .name word => pure word
    | .reserved word => fail (.reserved word) lexeme.spot
    | .fault reason => fail (.lexical reason) lexeme.spot
    | _ => fail .noFunctionName lexeme.spot
  if !(← accepts "(") then complain (.noParameters name)
  let parameters ← parameters name [] (← ahead)
  if !(← sees "\x7b") then complain (.noBody name)
  let outer ← get
  set { outer with names := parameters.map (·, false), captured := [] }
  let body ← self.block { inFunction := true }
  modify fun inner => { inner with names := outer.names, captured := outer.captured }
  let functions := (← get).functions
  if functions.any fun other =>
      other.name == name && other.parameters.length == parameters.length then
    fail (.repeatedFunction name parameters.length) spot
  modify fun reading =>
    { reading with functions := ⟨name, parameters, body⟩ :: reading.functions }
  return .nothing spot

def definition (setting : Setting) : Parse Stmt := do
  let lexeme ← next
  if !setting.atTop then fail .nestedFunction lexeme.spot
  match lexeme.token with
  | .mark "private" =>
      let spot ← expect "fn" "following 'private'"
      self.functionOf spot
  | _ => self.functionOf lexeme.spot

def statementOf (setting : Setting) : Parse Stmt := do
  let lexeme ← peek
  let spot := lexeme.spot
  let inner := { setting with atTop := false }
  match lexeme.token with
  | .finish => return .nothing spot
  | .mark word =>
      match word with
      | ";" =>
          let _ ← next
          return .nothing spot
      | "\x7b" => return .block (← self.block inner)
      | "fn" | "private" => self.definition setting
      | "if" => self.branch inner
      | "switch" => self.choice inner
      | "while" => self.loopOf inner false
      | "loop" => self.loopOf inner true
      | "do" => self.repetition inner
      | "for" => self.iteration inner
      | "continue" | "break" =>
          if !setting.inLoop then fail .outsideLoop spot
          let _ ← next
          if word == "continue" then return .exit false none spot
          else return .exit true (← self.result inner) spot
      | "return" | "throw" =>
          let _ ← next
          return .leave (word == "throw") (← self.result setting) spot
      | "try" => self.attemptOf inner
      | "let" => self.declaration setting false
      | "const" => self.declaration setting true
      | _ => self.plain setting
  | _ => self.plain setting

/-- The productions for parts that nest up to a depth. -/
def toDepth : Nat → Grammar
  | 0 =>
      let tooDeep {α : Type} : Parse α := do fail .incomplete (← peek).spot
      ⟨fun _ => tooDeep, fun _ _ _ => tooDeep, fun _ => tooDeep, fun _ => tooDeep,
        fun _ => tooDeep, fun _ => tooDeep⟩
  | depth + 1 =>
      { expression := fun setting => (toDepth depth).expressionOf setting
        operation := fun setting least left => do
          (toDepth depth).operations setting least (← ahead) left
        unary := fun setting => (toDepth depth).unaryOf setting
        statement := fun setting => (toDepth depth).statementOf setting
        block := fun setting => (toDepth depth).blockOf setting
        branch := fun setting => (toDepth depth).branchOf setting }

def topStatements : (fuel : Nat) → Parse (List Stmt)
  | 0 => return []
  | fuel + 1 => do
      if (← peek).token matches .finish then return []
      let statement ← self.statement { atTop := true }
      if statement.isNothing then topStatements fuel
      else if (← peek).token matches .finish then return [statement]
      else if statement.endsItself then return statement :: (← topStatements fuel)
      else if ← accepts ";" then return statement :: (← topStatements fuel)
      else complain (.missing ";" "to terminate this statement")

end Grammar

def Program.read (limits : Limits) (script : String) : Except Misreading Program := do
  let lexemes := Token.scan limits.stringBytes.toNat script
  let grammar := Grammar.toDepth (4 * lexemes.length + 8)
  let (statements, reading) ←
    (grammar.topStatements (lexemes.length + 1)).run { limits, lexemes }
  return ⟨statements, reading.functions.reverse⟩

end PageInjection.Script
