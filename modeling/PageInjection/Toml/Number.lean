import PageInjection.Decimal.Read
import PageInjection.Toml
import PageInjection.Toml.Scan

/-!
# Numbers, dates and times

The values of a TOML document that start with a digit or a sign.  A date or a
time goes before a number with a fraction or an exponent, and that before a
whole number.
-/

namespace PageInjection.Toml

/-- Digits with single lower lines between them, after the first digit. -/
def takeDigits (isDigit : Char → Bool) : List Char → Except Fault (List Char × List Char)
  | '_' :: c :: rest =>
      if isDigit c then do
        let (digits, rest) ← takeDigits isDigit rest
        return (c :: digits, rest)
      else faultAt (c :: rest)
  | ['_'] => faultAt []
  | c :: rest =>
      if isDigit c then do
        let (digits, rest) ← takeDigits isDigit rest
        return (c :: digits, rest)
      else .ok ([], c :: rest)
  | [] => .ok ([], [])

/-- Digits with single lower lines between them; there must be one. -/
def requireDigits (isDigit : Char → Bool) : List Char → Except Fault (List Char × List Char)
  | c :: rest =>
      if isDigit c then do
        let (digits, rest) ← takeDigits isDigit rest
        return (c :: digits, rest)
      else faultAt (c :: rest)
  | [] => faultAt []

/-- A number of `width` digits within bounds, if it is there. -/
def takeFixed? (width least greatest : Nat) (source : List Char) : Option (Nat × List Char) :=
  let digits := source.take width
  let value := Decimal.digitsValue digits
  if digits.length = width ∧ digits.all Char.isDigit ∧ least ≤ value ∧ value ≤ greatest then
    some (value, source.drop width)
  else none

/-- A number of two digits that must be there. -/
def requireTwo (least greatest : Nat) (source : List Char) : Except Fault (Nat × List Char) :=
  match takeFixed? 2 least greatest source with
  | some found => .ok found
  | none => faultAt source

def requireChar (wanted : Char) : List Char → Except Fault (List Char)
  | c :: rest => if c = wanted then .ok rest else faultAt (c :: rest)
  | [] => faultAt []

def daysIn (year month : Nat) : Nat :=
  if month = 2 then
    if year % 4 = 0 ∧ (year % 100 ≠ 0 ∨ year % 400 = 0) then 29 else 28
  else if month = 4 ∨ month = 6 ∨ month = 9 ∨ month = 11 then 30
  else 31

/-- The rest of a date after the year and the first line. -/
def takeDate (year : Nat) (source : List Char) : Except Fault (String × List Char) := do
  let (month, rest) ← requireTwo 1 12 source
  let days ← requireChar '-' rest
  let (day, rest) ← requireTwo 1 31 days
  if day > daysIn year month then faultAt days
  return (Text.padded 4 year ++ "-" ++ Text.padded 2 month ++ "-" ++ Text.padded 2 day, rest)

/-- The parts of a second that are kept: nine digits, without zeros at the
end. -/
def fractionText (digits : List Char) : String :=
  match ((digits.take 9).reverse.dropWhile (· == '0')).reverse with
  | [] => ""
  | kept => String.ofList ('.' :: kept)

/-- The rest of a time after the hour and the first colon. -/
def takeTime (hour : Nat) (source : List Char) : Except Fault (String × List Char) := do
  let (minute, rest) ← requireTwo 0 59 source
  let rest ← requireChar ':' rest
  let (second, rest) ← requireTwo 0 60 rest
  let (fraction, rest) : List Char × List Char := match rest with
    | '.' :: digits =>
        let (fraction, after) := digits.span Char.isDigit
        if fraction.isEmpty then ([], rest) else (fraction, after)
    | _ => ([], rest)
  return (Text.padded 2 hour ++ ":" ++ Text.padded 2 minute ++ ":" ++ Text.padded 2 second ++
    fractionText fraction, rest)

/-- A time, if it is there. -/
def takeTime? (source : List Char) : Except Fault (Option (String × List Char)) :=
  match takeFixed? 2 0 23 source with
  | some (hour, ':' :: rest) => do return some (← takeTime hour rest)
  | _ => .ok none

/-- The distance to universal time, which may be missing. -/
def takeOffset (source : List Char) : Except Fault (String × List Char) :=
  match source with
  | c :: rest =>
      if c = 'Z' ∨ c = 'z' then .ok ("Z", rest)
      else if c = '+' ∨ c = '-' then do
        let (hour, rest) ← requireTwo 0 23 rest
        let rest ← requireChar ':' rest
        let (minute, rest) ← requireTwo 0 59 rest
        let sign := if c = '-' ∧ hour + minute > 0 then "-" else "+"
        return (sign ++ Text.padded 2 hour ++ ":" ++ Text.padded 2 minute, rest)
      else .ok ("", source)
  | [] => .ok ("", [])

/-- A date with or without a time, or a time, if there is one. -/
def takeMoment? (source : List Char) : Except Fault (Option (String × List Char)) :=
  match takeFixed? 4 0 9999 source with
  | some (year, '-' :: rest) => do
      let (date, rest) ← takeDate year rest
      match rest with
      | c :: later =>
          if c = 'T' ∨ c = 't' ∨ c = ' ' then
            match ← takeTime? later with
            | some (time, rest) =>
                let (offset, rest) ← takeOffset rest
                return some (date ++ "T" ++ time ++ offset, rest)
            | none => return some (date, rest)
          else return some (date, rest)
      | [] => return some (date, rest)
  | _ => takeTime? source

/-- The rest of a number in a base with a mark, such as `0x`. -/
def takeBased (isDigit : Char → Bool) (base : Nat) (whole source : List Char) :
    Except Fault (Toml × List Char) := do
  let (digits, rest) ← requireDigits isDigit source
  let value := digits.foldl (fun value c => value * base + (Text.hexValue? c).getD 0) 0
  if value ≥ 0x8000000000000000 then faultAt whole
  return (.whole value, rest)

/-- The power of ten of a number, which may be missing. -/
def takePower? : List Char → Except Fault (Option (Int × List Char))
  | mark :: rest =>
      if mark = 'e' ∨ mark = 'E' then do
        let (sign, rest) : Int × List Char := match rest with
          | '-' :: rest => (-1, rest)
          | '+' :: rest => (1, rest)
          | rest => (1, rest)
        let (digits, rest) ← requireDigits Char.isDigit rest
        return some (sign * Decimal.digitsValue digits, rest)
      else .ok none
  | [] => .ok none

/-- A number with a sign in front of it or none, after that sign. -/
def takeUnsigned (isNegative : Bool) (whole source : List Char) :
    Except Fault (Toml × List Char) := do
  let signed (size : Float) : Float := if isNegative then -size else size
  let real (digits : List Char) (power : Int) (rest : List Char) :
      Except Fault (Toml × List Char) :=
    let value := signed (Decimal.nearest (Decimal.digitsValue digits) power)
    if value.isInf && !isNegative then faultAt whole else .ok (.real value, rest)
  match source with
  | 'i' :: 'n' :: 'f' :: rest => return (.real (signed (1.0 / 0.0)), rest)
  | 'n' :: 'a' :: 'n' :: rest => return (.real (signed (0.0 / 0.0)), rest)
  | c :: rest =>
      if !c.isDigit then faultAt source
      let (digits, rest) ← if c = '0' then .ok ([c], rest) else requireDigits Char.isDigit source
      match ← takePower? rest with
      | some (power, rest) => real digits power rest
      | none =>
          match rest with
          | '.' :: rest =>
              let (fraction, rest) ← requireDigits Char.isDigit rest
              let (power, rest) := (← takePower? rest).getD (0, rest)
              real (digits ++ fraction) (power - fraction.length) rest
          | _ =>
              let size := Int.ofNat (Decimal.digitsValue digits)
              let value := if isNegative then -size else size
              if -0x8000000000000000 ≤ value ∧ value < 0x8000000000000000 then
                return (.whole value, rest)
              else faultAt whole
  | [] => faultAt []

/-- A number, a date or a time. -/
def takeNumber (source : List Char) : Except Fault (Toml × List Char) := do
  match ← takeMoment? source with
  | some (written, rest) => return (.moment written, rest)
  | none =>
      match source with
      | '0' :: 'x' :: rest => takeBased (fun c => (Text.hexValue? c).isSome) 16 source rest
      | '0' :: 'o' :: rest => takeBased (fun c => '0' ≤ c ∧ c ≤ '7') 8 source rest
      | '0' :: 'b' :: rest => takeBased (fun c => c = '0' ∨ c = '1') 2 source rest
      | '-' :: rest => takeUnsigned true source rest
      | '+' :: rest => takeUnsigned false source rest
      | _ => takeUnsigned false source source

/-- Whether a sign stands without a number behind it. -/
def isLoneSign (source : List Char) : Bool :=
  let lacksNumber (rest : List Char) : Bool :=
    match rest with
    | 'i' :: 'n' :: 'f' :: _ => false
    | 'n' :: 'a' :: 'n' :: _ => false
    | c :: _ => !c.isDigit
    | [] => true
  match source with
  | '-' :: rest => lacksNumber rest
  | '+' :: rest => lacksNumber rest
  | _ => false

end PageInjection.Toml
