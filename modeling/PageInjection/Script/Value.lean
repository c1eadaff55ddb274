import PageInjection.Decimal.Shortest
import PageInjection.Text.Quoted

/-!
# Script values

What variables hold and expressions yield.  Lists and maps are values: a copy is
independent.  Only variables that a closure captures are shared; they are kept
in cells, and a shared value names its cell.
-/

namespace PageInjection.Script

/-- A value of the script language. -/
inductive Value where
  | unit
  | bool (value : Bool)
  | int (value : Int)
  | float (value : Float)
  | char (value : Char)
  | text (value : String)
  | list (items : Array Value)
  | map (members : List (String × Value))
  | function (name : String) (bound : List Value)
  | range (first last : Int) (inclusive : Bool)
  | steps (first last step : Int)
  | shared (cell : Nat)
deriving Inhabited

namespace Value

def leastInt : Int := -0x8000000000000000

def greatestInt : Int := 0x7FFFFFFFFFFFFFFF

/-- Whether a number is within the range of whole numbers. -/
def inRange (value : Int) : Bool :=
  leastInt ≤ value && value ≤ greatestInt

/-- The greatest size of a float that is written without an exponent: `1e13` as a
binary fraction of 24 digits. -/
def greatestPlain : Float := 9999999827968.0

/-- The least size of a float that is written without an exponent: `1e-7` as a
binary fraction of 24 digits. -/
def leastPlain : Float := 1.0000000116860974e-7

/-- A float as text: with an exponent when it is very large or very small. -/
def floatText (value : Float) : String :=
  if value.isNaN then "NaN"
  else if value.isInf then (if value < 0 then "-inf" else "inf")
  else if value == 0 then "0.0"
  else
    let sign := if value < 0 then "-" else ""
    let size := value.abs
    let number := Decimal.shortest size
    if size > greatestPlain || size < leastPlain then sign ++ number.exponential ""
    else sign ++ number.positional ".0"

/-- A float inside a list or map: with an exponent from `1e16` on and below
`1e-4`. -/
def floatQuoted (value : Float) : String :=
  if value.isNaN then "NaN"
  else if value.isInf then (if value < 0 then "-inf" else "inf")
  else
    let sign := if value.toBits.toNat ≥ 0x8000000000000000 then "-" else ""
    if value == 0 then sign ++ "0.0"
    else
      let size := value.abs
      let number := Decimal.shortest size
      if size ≥ 1e16 || size < 1e-4 then sign ++ number.exponential ""
      else sign ++ number.positional ".0"

def rangeText (first last : Int) (inclusive : Bool) : String :=
  toString first ++ (if inclusive then "..=" else "..") ++ toString last

mutual

/-- A value as it is shown inside another value; shared values are looked up in
the cells. -/
def quoted (cells : Array Value) : (depth : Nat) → Value → String
  | 0, _ => "..."
  | depth + 1, value =>
      match value with
      | .unit => "()"
      | .bool value => if value then "true" else "false"
      | .int value => toString value
      | .float value => floatQuoted value
      | .char value => Text.quotedLetter value
      | .text value => Text.quoted value
      | .list items => "[" ++ ", ".intercalate (quotedItems cells depth items.toList) ++ "]"
      | .map members => "#\x7b" ++ ", ".intercalate (quotedMembers cells depth members) ++ "\x7d"
      | .function name _ => "Fn(" ++ name ++ ")"
      | .range first last inclusive => rangeText first last inclusive
      | .steps _ _ _ => "StepRange"
      | .shared cell => quoted cells depth (cells.getD cell .unit)

def quotedItems (cells : Array Value) : (depth : Nat) → List Value → List String
  | 0, _ => []
  | _, [] => []
  | depth + 1, item :: items =>
      quoted cells depth item :: quotedItems cells (depth + 1) items

def quotedMembers (cells : Array Value) : (depth : Nat) → List (String × Value) → List String
  | 0, _ => []
  | _, [] => []
  | depth + 1, (name, value) :: members =>
      (Text.quoted name ++ ": " ++ quoted cells depth value) ::
        quotedMembers cells (depth + 1) members

end

def displayDepth : Nat := 4096

mutual

/-- A map as an object; values other than maps and `()` are shown as inside
another value. -/
def asJson (cells : Array Value) : (depth : Nat) → Value → String
  | 0, _ => "..."
  | depth + 1, value =>
      match value with
      | .map members => "\x7b" ++ ",".intercalate (asJsonMembers cells depth members) ++ "\x7d"
      | .unit => "null"
      | other => quoted cells displayDepth other

def asJsonMembers (cells : Array Value) : (depth : Nat) → List (String × Value) → List String
  | 0, _ => []
  | _, [] => []
  | depth + 1, (name, value) :: members =>
      (Text.quoted name ++ ":" ++ asJson cells depth value) ::
        asJsonMembers cells (depth + 1) members

end

def display (cells : Array Value) (value : Value) : String :=
  match value with
  | .unit => ""
  | .float value => floatText value
  | .char value => String.singleton value
  | .text value => value
  | .shared cell =>
      match cells.getD cell .unit with
      | .unit => ""
      | .float value => floatText value
      | .char value => String.singleton value
      | .text value => value
      | other => quoted cells displayDepth other
  | other => quoted cells displayDepth other

/-- The name of a value's type, as `type_of` gives it. -/
def typeName : Value → String
  | .unit => "()"
  | .bool _ => "bool"
  | .int _ => "i64"
  | .float _ => "f64"
  | .char _ => "char"
  | .text _ => "string"
  | .list _ => "array"
  | .map _ => "map"
  | .function _ _ => "Fn"
  | .range _ _ false => "range"
  | .range _ _ true => "range="
  | .steps _ _ _ => "StepRange"
  | .shared _ => "shared"

def isFunction : Value → Bool
  | .function _ _ => true
  | _ => false

/-- The name of a value's type in the signature of a missing function. -/
def signatureName : Value → String
  | .text _ => "&str | ImmutableString | String"
  | other => other.typeName

/-- How many list items, map members and bytes of text a value holds, nested
values included. -/
structure Size where
  items : Nat := 0
  members : Nat := 0
  bytes : Nat := 0

def Size.add (left right : Size) : Size :=
  ⟨left.items + right.items, left.members + right.members, left.bytes + right.bytes⟩

mutual

def sizeOf (depth : Nat) (value : Value) : Size :=
  match depth, value with
  | 0, _ => {}
  | _, .text value => ⟨0, 0, value.utf8ByteSize⟩
  | depth + 1, .list items => sizeOfItems depth items.toList ⟨items.size, 0, 0⟩
  | depth + 1, .map members => sizeOfMembers depth members ⟨0, members.length, 0⟩
  | _, _ => {}

/-- The size of the items of a list on top of `sum`. -/
def sizeOfItems : (depth : Nat) → List Value → (sum : Size) → Size
  | 0, _, sum => sum
  | _, [], sum => sum
  | depth + 1, item :: items, sum => sizeOfItems (depth + 1) items (sum.add (sizeOf depth item))

/-- The size of the members of a map on top of `sum`. -/
def sizeOfMembers : (depth : Nat) → List (String × Value) → (sum : Size) → Size
  | 0, _, sum => sum
  | _, [], sum => sum
  | depth + 1, (_, value) :: members, sum =>
      sizeOfMembers (depth + 1) members (sum.add (sizeOf depth value))

end

def memberOf? (name : String) (members : List (String × Value)) : Option Value :=
  members.lookup name

/-- Put a member into a map, in the order of the names. -/
def putMember (name : String) (value : Value) : List (String × Value) → List (String × Value)
  | [] => [(name, value)]
  | (head, old) :: tail =>
      if name = head then (name, value) :: tail
      else if name < head then (name, value) :: (head, old) :: tail
      else (head, old) :: putMember name value tail

def dropMember (name : String) (members : List (String × Value)) : List (String × Value) :=
  members.filter (·.1 != name)

end Value

end PageInjection.Script
