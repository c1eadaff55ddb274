/-!
# Decimal numerals of bounded numbers

`readNatural` reads a numeral digit by digit and stops at the first fault: a
character that is no digit, or the digit with which the value leaves the range.
-/

namespace PageInjection.Text

/-- Why a text is no numeral of the wanted range. -/
inductive NumeralFault where
  | empty
  | notADigit
  | tooLarge
  | tooSmall
deriving DecidableEq, Repr

def NumeralFault.message : NumeralFault → String
  | .empty => "cannot parse integer from empty string"
  | .notADigit => "invalid digit found in string"
  | .tooLarge => "number too large to fit in target type"
  | .tooSmall => "number too small to fit in target type"

def digit? (c : Char) : Option Nat :=
  if c.isDigit then some (c.toNat - 48) else none

/-- Continue a numeral whose digits so far have the value `value`. -/
def readDigits (bound : Nat) (overflow : NumeralFault) :
    (value : Nat) → List Char → Except NumeralFault Nat
  | value, [] => .ok value
  | value, c :: rest =>
      match digit? c with
      | none => .error .notADigit
      | some digit =>
          if value * 10 + digit ≤ bound then
            readDigits bound overflow (value * 10 + digit) rest
          else .error overflow

/-- A natural number up to `bound`; one leading plus sign is allowed. -/
def readNatural (bound : Nat) : List Char → Except NumeralFault Nat
  | [] => .error .empty
  | ['+'] => .error .notADigit
  | '+' :: digits => readDigits bound .tooLarge 0 digits
  | digits => readDigits bound .tooLarge 0 digits

/-- A signed number from `-(bound + 1)` to `bound`. -/
def readInteger (bound : Nat) : List Char → Except NumeralFault Int
  | [] => .error .empty
  | ['+'] => .error .notADigit
  | ['-'] => .error .notADigit
  | '+' :: digits => (readDigits bound .tooLarge 0 digits).map Int.ofNat
  | '-' :: digits => (readDigits (bound + 1) .tooSmall 0 digits).map fun value => -Int.ofNat value
  | digits => (readDigits bound .tooLarge 0 digits).map Int.ofNat

/-- Read a resource id or another 64-bit natural number. -/
def readUInt64 (text : List Char) : Except NumeralFault UInt64 :=
  (readNatural (UInt64.size - 1) text).map UInt64.ofNat

/-- The 64-bit number a text spells, if it spells one. -/
def uint64? (text : List Char) : Option UInt64 :=
  (readUInt64 text).toOption

/-- The decimal digits of a number, without leading zeros. -/
def decimal (value : Nat) : List Char :=
  Nat.toDigits 10 value

/-- A number in decimal digits, with zeros in front up to a width. -/
def padded (width value : Nat) : String :=
  let digits := decimal value
  String.ofList (List.replicate (width - digits.length) '0' ++ digits)

/-- The lower-case hexadecimal digit of a value below sixteen. -/
def hexDigit (value : Nat) : Char :=
  if value < 10 then Char.ofNat (48 + value) else Char.ofNat (87 + value)

/-- A value as `width` lower-case hexadecimal digits. -/
def hexadecimal : (width value : Nat) → List Char
  | 0, _ => []
  | width + 1, value => hexadecimal width (value / 16) ++ [hexDigit (value % 16)]

/-- The value of a hexadecimal digit of either case. -/
def hexValue? (c : Char) : Option Nat :=
  if c.isDigit then some (c.toNat - 48)
  else if 'a' ≤ c ∧ c ≤ 'f' then some (c.toNat - 87)
  else if 'A' ≤ c ∧ c ≤ 'F' then some (c.toNat - 55)
  else none

end PageInjection.Text
