import PageInjection.Decimal.Double
import PageInjection.Decimal.Read
import PageInjection.Script.Machine
import PageInjection.Script.Operator
import PageInjection.Text.Blank
import PageInjection.Text.Numeral

/-!
# The library of numbers

Functions on whole numbers and floats, the reading of numbers, and ranges.
-/

namespace PageInjection.Script.Library

def value (value : Value) : Option Native :=
  some (.reads (pure value))

def outcome (outcome : Except Cause Value) (spot : Spot) : Option Native :=
  some <| .reads <| match outcome with
    | .ok value => pure value
    | .error cause => Run.fail cause spot

/-- A function that gives its first argument a new value. -/
def change (result new : Value) : Option Native :=
  some (.writes (pure (result, new)))

def cut (value : Float) : Except Cause Value :=
  let tooLarge := Cause.arithmetic
    ("Integer overflow: to_int(" ++ Decimal.plainText value ++ ")")
  if value.isNaN || value.isInf then .error tooLarge
  else Operator.checked (Decimal.wholePart value) tooLarge

/-- The digits of a number in a base that is a power of two, in two's
complement. -/
def inBase (base : Nat) (value : Int) : String :=
  let natural := if value < 0 then (0x10000000000000000 + value).toNat else value.toNat
  String.ofList (Nat.toDigits base natural)

def ofInt (name : String) (number : Int) (spot : Spot) : Option Native :=
  match name with
  | "abs" => outcome (Operator.checked number.natAbs
      (.arithmetic ("Absolute overflow: -" ++ toString number))) spot
  | "sign" => value (.int number.sign)
  | "is_zero" => value (.bool (number = 0))
  | "is_odd" => value (.bool (number % 2 = 1))
  | "is_even" => value (.bool (number % 2 = 0))
  | "to_int" => value (.int number)
  | "to_float" => value (.float (Float.ofInt number))
  | "to_hex" => value (.text (inBase 16 number))
  | "to_octal" => value (.text (inBase 8 number))
  | "to_binary" => value (.text (inBase 2 number))
  | _ => none

def ofFloat (name : String) (number : Float) (spot : Spot) : Option Native :=
  let float (number : Float) : Option Native := value (.float number)
  match name with
  | "abs" => float number.abs
  | "sign" => value (.int (if number > 0 then 1 else if number < 0 then -1 else 0))
  | "floor" => float number.floor
  | "ceiling" => float number.ceil
  | "round" => float number.round
  | "int" => float (if number < 0 then number.ceil else number.floor)
  | "fraction" => float (number - (if number < 0 then number.ceil else number.floor))
  | "sqrt" => float number.sqrt
  | "exp" => float number.exp
  | "ln" => float number.log
  | "log" => float number.log10
  | "sin" => float number.sin
  | "cos" => float number.cos
  | "tan" => float number.tan
  | "asin" => float number.asin
  | "acos" => float number.acos
  | "atan" => float number.atan
  | "sinh" => float number.sinh
  | "cosh" => float number.cosh
  | "tanh" => float number.tanh
  | "to_degrees" => float (number * (180.0 / 3.14159265358979323846))
  | "to_radians" => float (number * (3.14159265358979323846 / 180.0))
  | "is_nan" => value (.bool number.isNaN)
  | "is_finite" => value (.bool number.isFinite)
  | "is_infinite" => value (.bool number.isInf)
  | "is_zero" => value (.bool (number == 0))
  | "to_int" => outcome (cut number) spot
  | "to_float" => float number
  | _ => none

def digitOf? (c : Char) : Option Nat :=
  if c.isDigit then some (c.toNat - '0'.toNat)
  else if 'a' ≤ c ∧ c ≤ 'z' then some (c.toNat - 'a'.toNat + 10)
  else if 'A' ≤ c ∧ c ≤ 'Z' then some (c.toNat - 'A'.toNat + 10)
  else none

/-- The number that digits stand for in a base, if all of them are digits. -/
def digitsIn (base : Nat) : List Char → Option Nat :=
  List.foldlM (fun sum c => do
    let digit ← digitOf? c
    if digit < base then some (sum * base + digit) else none) 0

def readInt (text : String) (base : Nat) : Except Cause Value :=
  let failure (reason : String) : Except Cause Value :=
    .error (.arithmetic ("Error parsing integer number '" ++ text ++ "': " ++ reason))
  let (sign, digits) : Int × List Char := match Text.trim text.toList with
    | '-' :: digits => (-1, digits)
    | '+' :: digits => (1, digits)
    | digits => (1, digits)
  if (Text.trim text.toList).isEmpty then failure "cannot parse integer from empty string"
  else if digits.isEmpty then failure "invalid digit found in string"
  else
    match digitsIn base digits with
    | none => failure "invalid digit found in string"
    | some size =>
        let number := sign * Int.ofNat size
        if number > Value.greatestInt then failure "number too large to fit in target type"
        else if number < Value.leastInt then failure "number too small to fit in target type"
        else .ok (.int number)

def readFloat (text : String) : Except Cause Value :=
  let failure (reason : String) : Except Cause Value :=
    .error (.arithmetic ("Error parsing floating-point number '" ++ text ++ "': " ++ reason))
  match Text.trim text.toList with
  | [] => failure "cannot parse float from empty string"
  | digits =>
      match Decimal.read? digits with
      | some number => .ok (.float number)
      | none => failure "invalid float literal"

def picked (takesGreater isLess : Bool) (left right : Value) : Option Native :=
  value (if isLess == takesGreater then right else left)

/-- Functions of two numbers or texts, of which one is picked. -/
def pick (takesGreater : Bool) (left right : Value) : Option Native :=
  let lesser : Option Bool := match left, right with
    | .int left, .int right => some (left < right)
    | .float left, .float right => some (left < right)
    | .int left, .float right => some (Float.ofInt left < right)
    | .float left, .int right => some (left < Float.ofInt right)
    | .text left, .text right => some (left < right)
    | .char left, .char right => some (left < right)
    | _, _ => none
  lesser.bind fun isLess => picked takesGreater isLess left right

def stepped (first last step : Int) (spot : Spot) : Option Native :=
  if step = 0 then
    some <| .reads <| throw <| .fault <|
      .within "range" (.at (.arithmetic "step value cannot be zero") none) (some spot)
  else value (.steps first last step)

def ofRange (name : String) (first last : Int) (isInclusive : Bool) (rest : List Value) :
    Option Native :=
  match name, rest with
  | "contains", [.int item] =>
      value (.bool (first ≤ item ∧ (item < last ∨ (isInclusive ∧ item = last))))
  | "start", [] => value (.int first)
  | "end", [] => value (.int last)
  | "is_empty", [] => value (.bool (if isInclusive then last < first else last ≤ first))
  | "is_inclusive", [] => value (.bool isInclusive)
  | "is_exclusive", [] => value (.bool !isInclusive)
  | "==", [.range a b c] => value (.bool (first = a ∧ last = b ∧ isInclusive = c))
  | _, _ => none

def numbers (name : String) (arguments : List Value) (spot : Spot) : Option Native :=
  match name, arguments with
  | "max", [left, right] => pick true left right
  | "min", [left, right] => pick false left right
  | "range", [.int first, .int last] => value (.range first last false)
  | "range", [.int first, .int last, .int step] => stepped first last step spot
  | "range", [.range first last isInclusive, .int step] =>
      stepped first (if isInclusive then last + 1 else last) step spot
  | "parse_int", [.text text] => outcome (readInt text 10) spot
  | "parse_int", [.text text, .int base] =>
      if 2 ≤ base ∧ base ≤ 36 then outcome (readInt text base.toNat) spot
      else outcome (.error (.arithmetic ("Invalid radix: '" ++ toString base ++ "'"))) spot
  | "parse_float", [.text text] => outcome (readFloat text) spot
  | "log", [.float number, .float base] => value (.float (number.log / base.log))
  | "atan", [.float y, .float x] => value (.float (Float.atan2 y x))
  | "hypot", [.float x, .float y] => value (.float (x * x + y * y).sqrt)
  | "PI", [] => value (.float 3.14159265358979323846)
  | "E", [] => value (.float 2.71828182845904523536)
  | name, [.int number] => ofInt name number spot
  | name, [.float number] => ofFloat name number spot
  | name, .range first last isInclusive :: rest => ofRange name first last isInclusive rest
  | name, [.steps first last step] =>
      match name with
      | "start" => value (.int first)
      | "end" => value (.int last)
      | "step" => value (.int step)
      | _ => none
  | _, _ => none

end PageInjection.Script.Library
