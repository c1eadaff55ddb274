import PageInjection.Script.Grammar

/-!
# The grammar of expressions

Operators with their binding strengths, literals, names, calls and chains.
-/

namespace PageInjection.Script

/-- How strongly an operator binds; zero for what is no operator. -/
def bindingStrength : Token → Nat
  | .mark word =>
      match word with
      | "||" | "|" | "^" => 30
      | "&&" | "&" => 60
      | "==" | "!=" => 90
      | "in" | "!in" => 110
      | "<" | "<=" | ">" | ">=" => 130
      | "??" => 135
      | ".." | "..=" => 140
      | "+" | "-" => 150
      | "*" | "/" | "%" => 180
      | "**" => 190
      | "<<" | ">>" => 210
      | _ => 0
  | _ => 0

namespace Expr

/-- What a literal is called in a refusal, if it is not of the wanted kind. -/
def literalName? : Expr → Option String
  | literal value _ => match value with
      | .unit => some "()"
      | .bool _ => some "a boolean"
      | .int _ => some "a number"
      | .float _ => some "a floating-point number"
      | .char _ => some "a character"
      | .text _ => some "a string"
      | other => some other.typeName
  | template _ _ => some "a string"
  | list _ _ => some "an array"
  | map _ _ => some "an object map"
  | _ => none

def ensureCondition (expr : Expr) : Parse Expr :=
  match expr.literalName? with
  | some "a boolean" | none => return expr
  | some found => Parse.fail (.wantedNot "a boolean expression" found) expr.first

/-- Refuse a literal that cannot be gone through. -/
def ensureIterable (expr : Expr) : Parse Expr :=
  match expr.literalName? with
  | some "a string" | some "an array" | none => return expr
  | some found =>
      match expr with
      | .literal (.function _ _) _ => return expr
      | _ => Parse.fail (.wantedNot "an iterable value" found) expr.first

/-- The refusal of an index that cannot fit a literal. -/
def indexRefusal? (root index : Expr) : Option String :=
  let found := match index with
    | both _ _ _ | either _ _ _ => some "a boolean"
    | other => other.literalName?
  match root with
  | map _ _ =>
      match found with
      | some "a string" | some "an array" | some "an object map" | none => none
      | some found => some ("Object map expects string index, not " ++ found)
  | literal (.int _) _ | literal (.text _) _ | template _ _ | list _ _ =>
      match found with
      | some "a number" | some "an array" | some "an object map" | none => none
      | some "a string" => some "Array or string expects numeric index, not a string"
      | some found => some ("Array or string expects integer index, not " ++ found)
  | _ => none

/-- Whether an expression is a literal that has no parts. -/
def hasNoParts : Expr → Bool
  | literal (.float _) _ | literal (.char _) _ | literal (.bool _) _ | literal .unit _
  | both _ _ _ | either _ _ _ => true
  | _ => false

def linked (expr : Expr) (link : Link) : Expr :=
  match expr with
  | chain root links => chain root (links ++ [link])
  | other => chain other [link]

end Expr

namespace Grammar

open Parse

variable (self : Grammar)

/-- The arguments of a call, after the opening bracket. -/
def arguments (setting : Setting) (name : String) : Parse (List Expr) := do
  let unclosed := SyntaxFault.missing ")"
    ("to close the arguments list of this function call '" ++ name ++ "'")
  if (← peek).token matches .finish then complain unclosed
  let setting := { setting with barEnds := false }
  let items ← all do
    if ← sees ")" then return none
    let item ← self.expression setting
    if ← accepts "," then return some item
    if ← sees ")" then return some item
    if (← peek).token matches .finish then complain unclosed
    complain (.missing "," ("to separate the arguments to function call '" ++ name ++ "'"))
  let _ ← next
  return items

/-- An expression in round brackets, after the opening one. -/
def grouped (setting : Setting) (spot : Spot) : Parse Expr := do
  if ← accepts ")" then return .literal .unit spot
  let expr ← self.expression { setting with barEnds := false }
  let _ ← expect ")" "for a matching ( in this expression"
  return expr

/-- The items of a list, after the opening bracket. -/
def listItems (setting : Setting) : Parse (List Expr) := do
  let limit := (← get).limits.arrayItems.toNat
  let item (count : Nat) : Parse (Option Expr) := do
    if limit > 0 && count ≥ limit then
      fail (.literalTooLarge "Size of array literal" limit) (← peek).spot
    if ← sees "]" then return none
    if (← peek).token matches .finish then complain (.missing "]" "to end this array literal")
    let item ← self.expression { setting with barEnds := false }
    if ← accepts "," then return some item
    if ← sees "]" then return some item
    if (← peek).token matches .finish then complain (.missing "]" "to end this array literal")
    complain (.missing "," "to separate the items of this array literal")
  let rec go (count : Nat) : (fuel : Nat) → Parse (List Expr)
    | 0 => return []
    | fuel + 1 => do
        match ← item count with
        | some value => return value :: (← go (count + 1) fuel)
        | none => return []
  let items ← go 0 (← ahead)
  let _ ← next
  return items

def memberName (isFirst : Bool) : Parse (String × Spot) := do
  let unclosed := SyntaxFault.missing "\x7d" "to end this object map literal"
  let lexeme ← peek
  match lexeme.token with
  | .name word | .text word =>
      let _ ← next
      return (word, lexeme.spot)
  | .textPart _ => fail .noPropertyName lexeme.spot
  | .reserved word =>
      if reservedKind word == "keyword" then fail (.reserved word) lexeme.spot
      else fail (if isFirst then unclosed else .noPropertyName) lexeme.spot
  | .fault reason => fail (.lexical reason) lexeme.spot
  | .finish => fail unclosed lexeme.spot
  | _ => fail (if isFirst then unclosed else .noPropertyName) lexeme.spot

/-- One member of a map; `done` holds the members before it. -/
def member (setting : Setting) (done : List (String × Expr)) :
    Parse (Option (String × Expr)) := do
  let unclosed := SyntaxFault.missing "\x7d" "to end this object map literal"
  if ← sees "\x7d" then return none
  let (name, spot) ← memberName done.isEmpty
  if (done.lookup name).isSome then fail (.repeatedProperty name) spot
  let _ ← expect ":" ("to follow the property '" ++ name ++ "' in this object map literal")
  let limit := (← get).limits.mapMembers.toNat
  if limit > 0 && done.length ≥ limit then
    fail (.literalTooLarge "Number of properties in object map literal" limit) (← peek).spot
  let value ← self.expression { setting with barEnds := false }
  if ← accepts "," then return some (name, value)
  if ← sees "\x7d" then return some (name, value)
  match (← peek).token with
  | .name _ => complain (.missing "," "to separate the items of this object map literal")
  | _ => complain unclosed

/-- The members of a map, after the opening bracket. -/
def members (setting : Setting) : (fuel : Nat) → (done : List (String × Expr)) →
    Parse (List (String × Expr))
  | 0, done => return done
  | fuel + 1, done => do
      match ← self.member setting done with
      | some found => members setting fuel (done ++ [found])
      | none =>
          let _ ← next
          return done

/-- The parts of a text with embedded code, after its first part. -/
def templateParts (setting : Setting) : Parse (List Expr) := do
  let reading ← get
  let rec go : (fuel : Nat) → Parse (List Expr)
    | 0 => return []
    | fuel + 1 => do
        let code := Expr.block (← self.block { setting with barEnds := false, atTop := false })
        let lexeme ← next
        match lexeme.token with
        | .text "" => return [code]
        | .text part => return [code, .literal (.text part) lexeme.spot]
        | .textPart "" => return code :: (← go fuel)
        | .textPart part => return code :: .literal (.text part) lexeme.spot :: (← go fuel)
        | .fault reason => fail (.lexical reason) lexeme.spot
        | _ => fail .incomplete lexeme.spot
  go reading.lexemes.length

/-- The parameters of a closure, after the opening bar. -/
def closureParameters (done : List String) : (fuel : Nat) → Parse (List String)
  | 0 => return done
  | fuel + 1 => do
      if ← accepts "|" then return done
      let lexeme ← peek
      match lexeme.token with
      | .name word =>
          if done.contains word then fail (.repeatedParameter "" word) lexeme.spot
          let _ ← next
          let done := done ++ [word]
          if ← accepts "|" then return done
          let _ ← expect "," "to separate the parameters of anonymous function or closure"
          closureParameters done fuel
      | _ =>
          complain (.missing "|" "to close the parameters list of anonymous function or closure")

/-- A closure, after its opening bar or double bar. -/
def closure (setting : Setting) (hasParameters : Bool) (spot : Spot) : Parse Expr := do
  let parameters ← if hasParameters then closureParameters [] (← ahead) else pure []
  let outer ← get
  set { outer with names := parameters.map (·, false), captured := [] }
  let body ← self.statement { inFunction := true, inClosure := true }
  let inner ← get
  let captured := inner.captured
  let name := closureMark ++ toString inner.functions.length
  let body := match body with
    | .block block => block
    | other => .of [other] other.spot
  let function : Function := ⟨name, captured.map (·.1) ++ parameters, body⟩
  set { inner with
    names := outer.names, captured := outer.captured, functions := function :: inner.functions }
  captured.forM fun (name, spot) => use setting name spot
  return .closure name captured spot

/-- A call or a variable, after its name. -/
def named (setting : Setting) (name : String) (spot : Spot) : Parse Expr := do
  if ← accepts "(" then
    return .call name false (← self.arguments setting name) spot
  else
    use setting name spot
    return .reference name spot

/-- An expression without operators and links. -/
def root (setting : Setting) : Parse Expr := do
  let lexeme ← peek
  let spot := lexeme.spot
  let constant (value : Value) : Parse Expr := do
    let _ ← next
    return .literal value spot
  let asStatement (part : Parse Stmt) : Parse Expr := do
    return .block (.of [← part] spot)
  match lexeme.token with
  | .finish => fail .incomplete spot
  | .fault reason => fail (.lexical reason) spot
  | .integer value => constant (.int value)
  | .float value => constant (.float value)
  | .char value => constant (.char value)
  | .text value => constant (.text value)
  | .textPart part =>
      let _ ← next
      let parts ← self.templateParts setting
      return .template (if part.isEmpty then parts else .literal (.text part) spot :: parts) spot
  | .name word =>
      let _ ← next
      self.named setting word spot
  | .reserved word =>
      let _ ← next
      if word == "this" then
        if setting.inFunction then return .this spot
        else fail (.improper "'this' can only be used in functions") spot
      else if Token.callableWords.contains word && (← sees "(") then self.named setting word spot
      else fail (.reserved word) spot
  | .mark word =>
      match word with
      | "true" => constant (.bool true)
      | "false" => constant (.bool false)
      | "\x7b" => return .block (← self.block { setting with atTop := false, barEnds := false })
      | "(" =>
          let _ ← next
          self.grouped setting spot
      | "[" =>
          let _ ← next
          return .list (← self.listItems setting) spot
      | "#\x7b" =>
          let _ ← next
          return .map (← self.members setting (← ahead) []) spot
      | "|" =>
          if setting.barEnds then fail (.unexpected word) spot
          else
            let _ ← next
            self.closure setting true spot
      | "||" =>
          let _ ← next
          self.closure setting false spot
      | "if" => asStatement (self.branch { setting with atTop := false })
      | "switch" | "while" | "loop" | "do" | "for" =>
          asStatement (self.statement { setting with atTop := false })
      | _ => fail (.unexpected word) spot

/-- An index, after its opening bracket. -/
def index (setting : Setting) (expr : Expr) (isOptional : Bool) (mark : Spot) : Parse Expr := do
  let index ← self.expression { setting with barEnds := false }
  match Expr.indexRefusal? expr index with
  | some message => fail (.badIndex message) index.first
  | none =>
      if expr.hasNoParts then
        fail (.badIndex "Only arrays, object maps and strings can be indexed") expr.first
      let _ ← expect "]" "for a matching [ in this index expression"
      return expr.linked (.index isOptional index mark)

/-- A property or method call, after its point. -/
def property (setting : Setting) (expr : Expr) (isOptional : Bool) (mark : Spot) :
    Parse Expr := do
  let lexeme ← peek
  let call (name : String) : Parse Expr := do
    let arguments ← self.arguments setting name
    return expr.linked (.method isOptional name arguments mark lexeme.spot)
  match lexeme.token with
  | .name word =>
      let _ ← next
      if ← accepts "(" then call word
      else return expr.linked (.property isOptional word mark lexeme.spot)
  | .reserved word =>
      if Token.callableWords.contains word then
        let _ ← next
        if ← accepts "(" then call word else fail (.reserved word) lexeme.spot
      else fail (.reserved word) lexeme.spot
  | _ => fail .noPropertyName lexeme.spot

def links (setting : Setting) : (fuel : Nat) → Expr → Parse Expr
  | 0, expr => return expr
  | fuel + 1, expr => do
      let lexeme ← peek
      let go (part : Parse Expr) : Parse Expr := do
        let _ ← next
        links setting fuel (← part)
      match lexeme.token with
      | .mark "[" => go (self.index setting expr false lexeme.spot)
      | .mark "?[" => go (self.index setting expr true lexeme.spot)
      | .mark "." => go (self.property setting expr false lexeme.spot)
      | .mark "?." => go (self.property setting expr true lexeme.spot)
      | _ => return expr

/-- The negation of an expression: a number changes its sign at once. -/
def negated (expr : Expr) (spot : Spot) : Expr :=
  match expr with
  | .literal (.int value) _ =>
      if Value.inRange (-value) then .literal (.int (-value)) spot
      else .literal (.float (-(Float.ofInt value))) spot
  | .literal (.float value) _ => .literal (.float (-value)) spot
  | other => .call "-" true [other] spot

def unaryOf (setting : Setting) : Parse Expr := do
  let lexeme ← peek
  match lexeme.token with
  | .mark "-" =>
      let _ ← next
      return negated (← self.unary setting) lexeme.spot
  | .mark "+" =>
      let _ ← next
      match ← self.unary setting with
      | .literal (.int value) spot => return .literal (.int value) spot
      | .literal (.float value) spot => return .literal (.float value) spot
      | other => return .call "+" true [other] lexeme.spot
  | .mark "!" =>
      let _ ← next
      return .call "!" true [← self.unary setting] lexeme.spot
  | _ =>
      let expr ← self.root setting
      self.links setting (← ahead) expr

def joined (operator : String) (left right : Expr) (spot : Spot) : Parse Expr := do
  match operator with
  | "||" =>
      let right ← right.ensureCondition
      return .either (← left.ensureCondition) right spot
  | "&&" =>
      let right ← right.ensureCondition
      return .both (← left.ensureCondition) right spot
  | "??" => return .coalesce left right spot
  | "in" => return .call "contains" true [right, left] spot
  | "!in" => return .call "!" true [.call "contains" true [right, left] spot] spot
  | _ => return .call operator true [left, right] spot

/-- How strongly the token ahead binds as an operator. -/
def strengthAhead (setting : Setting) : Parse Nat := do
  let lexeme ← peek
  match lexeme.token with
  | .reserved word =>
      if reservedKind word == "symbol" then fail (.unknownOperator word) lexeme.spot else return 0
  | .mark "|" => return if setting.barEnds then 0 else 30
  | token => return bindingStrength token

/-- The operators after an expression that bind at least as strongly as
`least`. -/
def operations (setting : Setting) (least : Nat) : (fuel : Nat) → Expr → Parse Expr
  | 0, left => return left
  | fuel + 1, left => do
      let strength ← strengthAhead setting
      let bindsRight (token : Token) : Bool := token matches .mark "**"
      if strength < least || (strength == least && !bindsRight (← peek).token) then return left
      let lexeme ← next
      let right ← self.unary setting
      let following ← strengthAhead setting
      let right ←
        if (strength == following && bindsRight lexeme.token) || strength < following then
          self.operation setting strength right
        else pure right
      operations setting least fuel (← joined lexeme.token.written left right lexeme.spot)

def expressionOf (setting : Setting) : Parse Expr := do
  let left ← self.unary setting
  self.operation setting 1 left

end Grammar

end PageInjection.Script
