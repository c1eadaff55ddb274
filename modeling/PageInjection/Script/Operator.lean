import PageInjection.Decimal.Double
import PageInjection.Script.Fault

/-!
# Operators on script values

What the operators do on numbers, texts and other plain values.  `Operator.plain?`
knows no answer for lists, maps and mixed types; those are left to the library.
-/

namespace PageInjection.Script.Operator

/-- The outcome of an operator. -/
abbrev Outcome := Except Cause Value

/-- A message about two numbers and the operator between them. -/
def failure (what : String) (left : Int) (symbol : String) (right : Int) : Cause :=
  .arithmetic (what ++ ": " ++ toString left ++ " " ++ symbol ++ " " ++ toString right)

/-- A whole number, unless it is out of range. -/
def checked (value : Int) (cause : Cause) : Outcome :=
  if Value.inRange value then .ok (.int value) else .error cause

def power (left right : Int) : Outcome :=
  if right > 0xFFFFFFFF then .error (failure "Integer raised to too large an index" left "**" right)
  else if right < 0 then .error (failure "Integer raised to a negative power" left "**" right)
  else if left.natAbs ≤ 1 then
    .ok (.int (if left = -1 ∧ right % 2 = 1 then -1 else if left = 0 ∧ right ≠ 0 then 0 else 1))
  else if right > 64 then .error (failure "Exponential overflow" left "**" right)
  else checked (left.pow right.toNat) (failure "Exponential overflow" left "**" right)

/-- The bits of a number moved by a natural amount. -/
def moveBits (toLeft : Bool) (value amount : Int) : Outcome :=
  if amount ≥ 64 then
    .error (if toLeft then failure "Left-shift by too many bits" value "<<" amount
      else failure "Right-shift by too many bits" value ">>" amount)
  else if toLeft then .ok (.int (Int64.ofInt value <<< Int64.ofInt amount).toInt)
  else .ok (.int (Int64.ofInt value >>> Int64.ofInt amount).toInt)

/-- The bits of a number moved; a negative amount moves them the other way. -/
def shift (toLeft : Bool) (value amount : Int) : Outcome :=
  if amount < 0 then moveBits (!toLeft) value (min (-amount) Value.greatestInt)
  else moveBits toLeft value amount

def onInts (symbol : String) (left right : Int) : Option Outcome :=
  match symbol with
  | "+" => some (checked (left + right) (failure "Addition overflow" left "+" right))
  | "-" => some (checked (left - right) (failure "Subtraction overflow" left "-" right))
  | "*" => some (checked (left * right) (failure "Multiplication overflow" left "*" right))
  | "/" => some <|
      if right = 0 then .error (failure "Division by zero" left "/" right)
      else checked (left.tdiv right) (failure "Division overflow" left "/" right)
  | "%" => some <|
      let cause := failure "Modulo division by zero or overflow" left "%" right
      if right = 0 ∨ (left = Value.leastInt ∧ right = -1) then .error cause
      else .ok (.int (left.tmod right))
  | "**" => some (power left right)
  | "<<" => some (shift true left right)
  | ">>" => some (shift false left right)
  | "&" => some (.ok (.int (Int64.ofInt left &&& Int64.ofInt right).toInt))
  | "|" => some (.ok (.int (Int64.ofInt left ||| Int64.ofInt right).toInt))
  | "^" => some (.ok (.int (Int64.ofInt left ^^^ Int64.ofInt right).toInt))
  | "==" => some (.ok (.bool (left = right)))
  | "!=" => some (.ok (.bool (left ≠ right)))
  | "<" => some (.ok (.bool (left < right)))
  | "<=" => some (.ok (.bool (left ≤ right)))
  | ">" => some (.ok (.bool (left > right)))
  | ">=" => some (.ok (.bool (left ≥ right)))
  | ".." => some (.ok (.range left right false))
  | "..=" => some (.ok (.range left right true))
  | _ => none

def onFloats (symbol : String) (left right : Float) : Option Outcome :=
  match symbol with
  | "+" => some (.ok (.float (left + right)))
  | "-" => some (.ok (.float (left - right)))
  | "*" => some (.ok (.float (left * right)))
  | "/" => some (.ok (.float (left / right)))
  | "%" => some (.ok (.float (Decimal.remainder left right)))
  | "**" => some (.ok (.float (Float.pow left right)))
  | "==" => some (.ok (.bool (left == right)))
  | "!=" => some (.ok (.bool (left != right)))
  | "<" => some (.ok (.bool (left < right)))
  | "<=" => some (.ok (.bool (left ≤ right)))
  | ">" => some (.ok (.bool (left > right)))
  | ">=" => some (.ok (.bool (left ≥ right)))
  | _ => none

/-- The comparison that a symbol stands for, from the order of two things. -/
def compared (symbol : String) (isLess isSame : Bool) : Option Outcome :=
  match symbol with
  | "==" => some (.ok (.bool isSame))
  | "!=" => some (.ok (.bool !isSame))
  | "<" => some (.ok (.bool isLess))
  | "<=" => some (.ok (.bool (isLess || isSame)))
  | ">" => some (.ok (.bool !(isLess || isSame)))
  | ">=" => some (.ok (.bool !isLess))
  | _ => none

/-- A text without the places where another text stands. -/
def without (part : List Char) : (fuel : Nat) → List Char → List Char
  | 0, text => text
  | _, [] => []
  | fuel + 1, c :: text =>
      if part.isEmpty then c :: text
      else if part.isPrefixOf (c :: text) then without part fuel ((c :: text).drop part.length)
      else c :: without part fuel text

def onTexts (symbol : String) (left right : String) : Option Outcome :=
  match symbol with
  | "+" => some (.ok (.text (left ++ right)))
  | "-" => some (.ok (.text (String.ofList
      (without right.toList (left.length + 1) left.toList))))
  | _ => compared symbol (left < right) (left == right)

/-- The first two letters of a text in numbers; a missing letter comes first. -/
def opening (text : List Char) : Nat × Nat :=
  let number (c : Option Char) : Nat := (c.map fun c => c.toNat + 1).getD 0
  (number text[0]?, number text[1]?)

/-- The comparison of texts by their first two letters. -/
def onOpenings (symbol : String) (left right : List Char) : Option Outcome :=
  let (a, b) := opening left
  let (c, d) := opening right
  compared symbol (a < c || (a == c && b < d)) (a == c && b == d)

def onBools (symbol : String) (left right : Bool) : Option Outcome :=
  match symbol with
  | "&" => some (.ok (.bool (left && right)))
  | "|" => some (.ok (.bool (left || right)))
  | "^" => some (.ok (.bool (left != right)))
  | _ => compared symbol (!left && right) (left == right)

def isComparison (symbol : String) : Bool :=
  ["==", "!=", "<", "<=", ">", ">="].contains symbol

def plain? (symbol : String) (left right : Value) : Option Outcome :=
  match left, right with
  | .int left, .int right => onInts symbol left right
  | .float left, .float right => onFloats symbol left right
  | .int left, .float right => onFloats symbol (Float.ofInt left) right
  | .float left, .int right =>
      if symbol == "**" then some (.ok (.float (Decimal.wholePower left right)))
      else onFloats symbol left (Float.ofInt right)
  | .bool left, .bool right => onBools symbol left right
  | .text left, .text right => onTexts symbol left right
  | .text left, .char right =>
      if symbol == "+" || symbol == "-" then onTexts symbol left (String.singleton right)
      else onOpenings symbol left.toList [right]
  | .char left, .text right =>
      if symbol == "+" then onTexts symbol (String.singleton left) right
      else onOpenings symbol [left] right.toList
  | .char left, .char right =>
      if symbol == "+" then onTexts symbol (String.singleton left) (String.singleton right)
      else compared symbol (left < right) (left == right)
  | .unit, .unit => compared symbol false true |>.map fun outcome =>
      if symbol == "==" then outcome else .ok (.bool false)
  | .text left, .unit => if symbol == "+" then some (.ok (.text left)) else differing symbol
  | .unit, .text right => if symbol == "+" then some (.ok (.text right)) else differing symbol
  | .range a b c, .range d e f =>
      if c == f then
        match symbol with
        | "==" => some (.ok (.bool (a = d ∧ b = e)))
        | "!=" => some (.ok (.bool (a ≠ d ∨ b ≠ e)))
        | _ => none
      else differing symbol
  | .list _, .list _ | .map _, .map _ | .function _ _, .function _ _
  | .steps _ _ _, .steps _ _ _ => none
  | _, _ => differing symbol
where
  /-- Values of different types differ and are in no order. -/
  differing (symbol : String) : Option Outcome :=
    if isComparison symbol then some (.ok (.bool (symbol == "!="))) else none

def sign? (symbol : String) (value : Value) : Option Outcome :=
  match symbol, value with
  | "-", .int value =>
      some (checked (-value) (.arithmetic ("Negation overflow: -" ++ toString value)))
  | "-", .float value => some (.ok (.float (-value)))
  | "+", .int value => some (.ok (.int value))
  | "+", .float value => some (.ok (.float value))
  | "!", .bool value => some (.ok (.bool !value))
  | _, _ => none

mutual

/-- Whether two values are the same, part by part. -/
def same : (depth : Nat) → Value → Value → Bool
  | 0, _, _ => false
  | depth + 1, .list left, .list right =>
      left.size == right.size && sameItems depth left.toList right.toList
  | depth + 1, .map left, .map right =>
      left.length == right.length && sameMembers depth left right
  | _, .function left _, .function right _ => left == right
  | _, left, right =>
      match plain? "==" left right with
      | some (.ok (.bool isSame)) => isSame
      | _ => false

def sameItems : (depth : Nat) → List Value → List Value → Bool
  | depth + 1, left :: lefts, right :: rights =>
      same depth left right && sameItems (depth + 1) lefts rights
  | _, [], [] => true
  | _, _, _ => false

def sameMembers : (depth : Nat) → List (String × Value) → List (String × Value) → Bool
  | depth + 1, (name, left) :: lefts, (other, right) :: rights =>
      name == other && same depth left right && sameMembers (depth + 1) lefts rights
  | _, [], [] => true
  | _, _, _ => false

end

def depth : Nat := 4096

end PageInjection.Script.Operator
