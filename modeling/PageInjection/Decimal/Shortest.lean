import PageInjection.Text.Numeral

/-!
# Shortest decimal forms

A finite double is read back from every decimal in the interval of numbers that
round to it.  `shortest` picks the decimal with the fewest digits in that
interval, and of several with that many digits the nearest.  The two layouts at
the end write such a decimal with or without an exponent.
-/

namespace PageInjection.Decimal

/-- The number `digits * 10 ^ exponent`. -/
structure Scientific where
  digits : Nat
  exponent : Int
deriving DecidableEq, Repr

/-- A positive double as `mantissa * 2 ^ exponent`; `narrow` when the gap to the
next smaller double is half of the gap to the next larger one. -/
structure Binary where
  mantissa : Nat
  exponent : Int
  narrow : Bool
deriving DecidableEq, Repr

/-- The parts of a positive finite double from its bits. -/
def Binary.ofBits (bits : UInt64) : Binary :=
  let fraction := bits.toNat % 0x10000000000000
  let exponent := bits.toNat / 0x10000000000000 % 2048
  if exponent = 0 then ⟨fraction, -1074, false⟩
  else ⟨fraction + 0x10000000000000, Int.ofNat exponent - 1075, fraction == 0 && exponent > 1⟩

/-- The interval of a double in quarters of its last binary place, as fractions
with a common denominator: lower end, value, upper end, denominator. -/
structure Interval where
  lower : Nat
  value : Nat
  upper : Nat
  denominator : Nat
  closed : Bool

/-- The interval of numbers that round to a double. -/
def Binary.interval (binary : Binary) : Interval :=
  let scale := if binary.exponent ≥ 2 then Nat.pow 2 (binary.exponent - 2).toNat else 1
  let denominator := if binary.exponent ≥ 2 then 1 else Nat.pow 2 (2 - binary.exponent).toNat
  let quarters := 4 * binary.mantissa
  ⟨(quarters - if binary.narrow then 1 else 2) * scale, quarters * scale,
    (quarters + 2) * scale, denominator, binary.mantissa % 2 == 0⟩

/-- How many digits stand before the point; zero or less when the value is
below one tenth and so on. -/
def Interval.magnitude (interval : Interval) : Int :=
  Int.ofNat (Text.decimal (interval.value * Nat.pow 10 400 / interval.denominator)).length - 400

/-- The interval with numbers in units of `10 ^ exponent`. -/
def Interval.inUnits (interval : Interval) (exponent : Int) : Interval :=
  if exponent ≥ 0 then
    { interval with denominator := interval.denominator * Nat.pow 10 exponent.toNat }
  else
    let scale := Nat.pow 10 (-exponent).toNat
    { interval with
      lower := interval.lower * scale
      value := interval.value * scale
      upper := interval.upper * scale }

/-- Whether a whole number lies in the interval. -/
def Interval.contains (interval : Interval) (candidate : Nat) : Bool :=
  let point := candidate * interval.denominator
  if interval.closed then interval.lower ≤ point && point ≤ interval.upper
  else interval.lower < point && point < interval.upper

/-- The whole number nearest to the value among the hits of its two
neighbours. -/
def Interval.hit? (interval : Interval) : Option Nat :=
  let below := interval.value / interval.denominator
  let above := below + 1
  match interval.contains below && below != 0, interval.contains above with
  | true, true =>
      let toBelow := interval.value - below * interval.denominator
      let toAbove := above * interval.denominator - interval.value
      if toBelow < toAbove || (toBelow == toAbove && below % 2 == 0) then some below
      else some above
  | true, false => some below
  | false, true => some above
  | false, false => none

def Interval.search (interval : Interval) (magnitude : Int) : (left digits : Nat) → Scientific
  | 0, _ => ⟨0, 0⟩
  | left + 1, digits =>
      let exponent := magnitude - Int.ofNat digits
      match (interval.inUnits exponent).hit? with
      | some found => ⟨found, exponent⟩
      | none => interval.search magnitude left (digits + 1)

def Scientific.trimZeros (number : Scientific) : (limit : Nat) → Scientific
  | 0 => number
  | limit + 1 =>
      if number.digits ≠ 0 ∧ number.digits % 10 = 0 then
        trimZeros ⟨number.digits / 10, number.exponent + 1⟩ limit
      else number

/-- The shortest decimal that reads back as a positive finite double. -/
def shortest (value : Float) : Scientific :=
  let interval := (Binary.ofBits value.toBits).interval
  (interval.search interval.magnitude 17 1).trimZeros 20

/-- Digits with the point where it belongs and no exponent; `whole` is written
after a whole number. -/
def Scientific.positional (number : Scientific) (whole : String) : String :=
  let digits := Text.decimal number.digits
  let point := Int.ofNat digits.length + number.exponent
  if number.exponent ≥ 0 then
    String.ofList (digits ++ List.replicate number.exponent.toNat '0') ++ whole
  else if point > 0 then
    String.ofList (digits.take point.toNat ++ '.' :: digits.drop point.toNat)
  else String.ofList ('0' :: '.' :: List.replicate (-point).toNat '0' ++ digits)

/-- One digit, the point, the other digits and the power of ten; `plus` stands
before an exponent that is not negative. -/
def Scientific.exponential (number : Scientific) (plus : String) : String :=
  let digits := Text.decimal number.digits
  let power := Int.ofNat digits.length + number.exponent - 1
  let lead := match digits with
    | [] => []
    | [digit] => [digit]
    | digit :: rest => digit :: '.' :: rest
  String.ofList lead ++ "e" ++ (if power ≥ 0 then plus else "") ++ toString power

/-- The place of the point counted from the first digit. -/
def Scientific.point (number : Scientific) : Int :=
  Int.ofNat (Text.decimal number.digits).length + number.exponent

end PageInjection.Decimal
