import PageInjection.Decimal.Shortest

/-!
# Reading decimals

From digits to the nearest double.  `read?` takes a whole text: an optional
sign, digits with an optional point and exponent, or the name of an infinity or
of the value that is no number.
-/

namespace PageInjection.Decimal

def takeDigits (source : List Char) : List Char × List Char :=
  source.span Char.isDigit

def digitsValue (digits : List Char) : Nat :=
  digits.foldl (fun value c => value * 10 + (c.toNat - 48)) 0

/-- The double nearest to `digits * 10 ^ exponent`.  Exponents that make every
such number infinite or zero are cut short. -/
def nearest (digits : Nat) (exponent : Int) : Float :=
  if digits = 0 then 0
  else if exponent ≥ 0 then Float.ofScientific digits false (min exponent.toNat 400)
  else Float.ofScientific digits true (min (-exponent).toNat (digits.log2 + 400))

/-- The power of ten after a number, if that is all that follows. -/
def readPower? : List Char → Option Int
  | [] => some 0
  | mark :: rest =>
      if mark != 'e' && mark != 'E' then none
      else
        let (sign, digits) : Int × List Char := match rest with
          | '-' :: digits => (-1, digits)
          | '+' :: digits => (1, digits)
          | digits => (1, digits)
        if digits.isEmpty || !digits.all Char.isDigit then none
        else some (sign * digitsValue digits)

def readSize? (text : List Char) : Option Float :=
  let word := String.ofList (text.map Char.toLower)
  if word == "inf" || word == "infinity" then some (1.0 / 0.0)
  else if word == "nan" then some (0.0 / 0.0)
  else
    let (whole, rest) := takeDigits text
    let (fraction, rest) := match rest with
      | '.' :: rest => takeDigits rest
      | rest => ([], rest)
    if whole.isEmpty && fraction.isEmpty then none
    else
      (readPower? rest).map fun power =>
        nearest (digitsValue (whole ++ fraction)) (power - fraction.length)

def read? : List Char → Option Float
  | '-' :: size => (readSize? size).map fun size => -size
  | '+' :: size => readSize? size
  | size => readSize? size

def plainText (value : Float) : String :=
  if value.isNaN then "NaN"
  else if value.isInf then (if value < 0 then "-inf" else "inf")
  else
    let sign := if value.toBits.toNat ≥ 0x8000000000000000 then "-" else ""
    if value == 0 then sign ++ "0" else sign ++ (shortest value.abs).positional ""

end PageInjection.Decimal
