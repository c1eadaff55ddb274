import PageInjection.Decimal.Read
import PageInjection.Json

/-!
# Reading JSON

`read` takes a whole text.  A fault says what was found or missed, and at which
line and column.
-/

namespace PageInjection.Json

/-- What is wrong with a text, and how much of it was left then. -/
structure ReadFault where
  reason : String
  remaining : Nat

def faultAt (reason : String) (rest : List Char) : Except ReadFault α :=
  .error ⟨reason, rest.length⟩

/-- A fault at the first character of the given rest. -/
def faultOn (reason : String) (rest : List Char) : Except ReadFault α :=
  .error ⟨reason, rest.length - 1⟩

def isSpace (c : Char) : Bool :=
  c == ' ' || c == '\n' || c == '\t' || c == '\r'

def skipSpace (source : List Char) : List Char :=
  source.dropWhile isSpace

def takeHex : (count value : Nat) → List Char → Except ReadFault (Nat × List Char)
  | 0, value, rest => .ok (value, rest)
  | _ + 1, _, [] => faultAt "EOF while parsing a string" []
  | count + 1, value, c :: rest =>
      match Text.hexValue? c with
      | some digit => takeHex count (value * 16 + digit) rest
      | none => faultAt "invalid escape" rest

/-- What follows `\u`; a surrogate needs its partner. -/
def takeCodePoint (source : List Char) : Except ReadFault (Char × List Char) := do
  let (unit, rest) ← takeHex 4 0 source
  if 0xDC00 ≤ unit ∧ unit ≤ 0xDFFF then faultAt "lone leading surrogate in hex escape" rest
  else if 0xD800 ≤ unit ∧ unit ≤ 0xDBFF then
    match rest with
    | '\\' :: 'u' :: rest =>
        let (low, rest) ← takeHex 4 0 rest
        if 0xDC00 ≤ low ∧ low ≤ 0xDFFF then
          return (Char.ofNat (0x10000 + (unit - 0xD800) * 0x400 + (low - 0xDC00)), rest)
        else faultAt "lone leading surrogate in hex escape" rest
    | '\\' :: rest => faultOn "unexpected end of hex escape" rest
    | rest => faultOn "unexpected end of hex escape" rest
  else return (Char.ofNat unit, rest)

/-- The rest of a quoted text after its opening quote; `done` is what was read,
last character first. -/
def takeQuoted : (fuel : Nat) → (done : List Char) → List Char →
    Except ReadFault (String × List Char)
  | 0, _, rest => faultAt "EOF while parsing a string" rest
  | fuel + 1, done, source =>
      match source with
      | [] => faultAt "EOF while parsing a string" []
      | '"' :: rest => .ok (String.ofList done.reverse, rest)
      | '\\' :: 'u' :: rest => do
          let (c, rest) ← takeCodePoint rest
          takeQuoted fuel (c :: done) rest
      | ['\\'] => faultAt "EOF while parsing a string" []
      | '\\' :: c :: rest =>
          match c with
          | '"' => takeQuoted fuel ('"' :: done) rest
          | '\\' => takeQuoted fuel ('\\' :: done) rest
          | '/' => takeQuoted fuel ('/' :: done) rest
          | 'b' => takeQuoted fuel (Char.ofNat 8 :: done) rest
          | 'f' => takeQuoted fuel (Char.ofNat 12 :: done) rest
          | 'n' => takeQuoted fuel ('\n' :: done) rest
          | 'r' => takeQuoted fuel ('\r' :: done) rest
          | 't' => takeQuoted fuel ('\t' :: done) rest
          | _ => faultAt "invalid escape" rest
      | c :: rest =>
          if c.toNat < 32 then
            faultAt "control character (\\u0000-\\u001F) found while parsing a string" rest
          else takeQuoted fuel (c :: done) rest

def takeNumber (negative : Bool) (source : List Char) : Except ReadFault (Json × List Char) := do
  let (whole, rest) := Decimal.takeDigits source
  if whole.isEmpty then
    (if rest.isEmpty then faultAt "EOF while parsing a value" rest
    else faultOn "invalid number" rest)
  if whole.head? == some '0' && whole.length > 1 then
    faultOn "invalid number" (whole.drop 1 ++ rest)
  let (fraction, rest, hasFraction) ← match rest with
    | '.' :: rest =>
        let (fraction, rest) := Decimal.takeDigits rest
        if fraction.isEmpty then
          if rest.isEmpty then faultAt "EOF while parsing a value" rest
          else faultOn "invalid number" rest
        else .ok (fraction, rest, true)
    | rest => .ok ([], rest, false)
  let (exponent, rest, hasExponent) ← match rest with
    | e :: rest' =>
        if e == 'e' || e == 'E' then
          let (negativePower, digits) : Bool × List Char := match rest' with
            | '-' :: rest => (true, rest)
            | '+' :: rest => (false, rest)
            | rest => (false, rest)
          let (power, rest) := Decimal.takeDigits digits
          if power.isEmpty then
            if rest.isEmpty then faultAt "EOF while parsing a value" rest
            else faultOn "invalid number" rest
          else
            let value := Int.ofNat (Decimal.digitsValue power)
            .ok (if negativePower then -value else value, rest, true)
        else .ok (0, rest, false)
    | [] => .ok (0, [], false)
  let digits := Decimal.digitsValue (whole ++ fraction)
  if !hasFraction && !hasExponent then
    if negative then
      if digits = 0 then return (.real (-0.0), rest)
      else if digits ≤ 0x8000000000000000 then return (.integer (-Int.ofNat digits), rest)
    else if digits < 0x10000000000000000 then return (.integer digits, rest)
  let value := Decimal.nearest digits (exponent - fraction.length)
  if value.isInf then faultAt "number out of range" rest
  return (.real (if negative then -value else value), rest)

def takeWord (word : List Char) (value : Json) : List Char → Except ReadFault (Json × List Char) :=
  go word
where
  go : List Char → List Char → Except ReadFault (Json × List Char)
    | [], rest => .ok (value, rest)
    | _ :: _, [] => faultAt "EOF while parsing a value" []
    | c :: word, d :: rest => if c = d then go word rest else faultAt "expected ident" rest

mutual

/-- A value; `depth` is how many brackets may still be opened. -/
def takeValue : (fuel depth : Nat) → List Char → Except ReadFault (Json × List Char)
  | 0, _, rest => faultAt "recursion limit exceeded" rest
  | fuel + 1, depth, source =>
      match skipSpace source with
      | [] => faultAt "EOF while parsing a value" []
      | 'n' :: rest => takeWord ['u', 'l', 'l'] .null rest
      | 't' :: rest => takeWord ['r', 'u', 'e'] (.bool true) rest
      | 'f' :: rest => takeWord ['a', 'l', 's', 'e'] (.bool false) rest
      | '"' :: rest => do
          let (value, rest) ← takeQuoted (rest.length + 1) [] rest
          return (.text value, rest)
      | '[' :: rest =>
          match depth with
          | 0 => faultAt "recursion limit exceeded" rest
          | depth + 1 =>
              match skipSpace rest with
              | ']' :: rest => .ok (.list [], rest)
              | [] => faultAt "EOF while parsing a list" []
              | rest => takeItems fuel depth [] rest
      | '\x7b' :: rest =>
          match depth with
          | 0 => faultAt "recursion limit exceeded" rest
          | depth + 1 =>
              match skipSpace rest with
              | '\x7d' :: rest => .ok (.object [], rest)
              | [] => faultAt "EOF while parsing an object" []
              | rest => takeMembers fuel depth [] rest
      | '-' :: rest => takeNumber true rest
      | c :: rest =>
        if c.isDigit then takeNumber false (c :: rest) else faultAt "expected value" rest

/-- The items of a list from the next one on. -/
def takeItems : (fuel depth : Nat) → (done : List Json) → List Char →
    Except ReadFault (Json × List Char)
  | 0, _, _, rest => faultAt "recursion limit exceeded" rest
  | fuel + 1, depth, done, source => do
      let (value, rest) ← takeValue fuel depth source
      match skipSpace rest with
      | ',' :: rest =>
          match skipSpace rest with
          | ']' :: rest => faultAt "trailing comma" rest
          | rest => takeItems fuel depth (value :: done) rest
      | ']' :: rest => return (.list (value :: done).reverse, rest)
      | [] => faultAt "EOF while parsing a list" []
      | _ :: rest => faultAt "expected `,` or `]`" rest

/-- The members of an object from the next one on. -/
def takeMembers : (fuel depth : Nat) → (done : List (String × Json)) → List Char →
    Except ReadFault (Json × List Char)
  | 0, _, _, rest => faultAt "recursion limit exceeded" rest
  | fuel + 1, depth, done, source =>
      match source with
      | '"' :: rest => do
          let (name, rest) ← takeQuoted (rest.length + 1) [] rest
          match skipSpace rest with
          | ':' :: rest =>
              let (value, rest) ← takeValue fuel depth rest
              let done := insertMember name value done
              match skipSpace rest with
              | ',' :: rest =>
                  match skipSpace rest with
                  | '\x7d' :: rest => faultAt "trailing comma" rest
                  | [] => faultAt "EOF while parsing a value" []
                  | rest => takeMembers fuel depth done rest
              | '\x7d' :: rest => return (.object done, rest)
              | [] => faultAt "EOF while parsing an object" []
              | _ :: rest => faultAt "expected `,` or `\x7d`" rest
          | [] => faultAt "EOF while parsing an object" []
          | _ :: rest => faultAt "expected `:`" rest
      | [] => faultAt "EOF while parsing a value" []
      | _ :: rest => faultAt "key must be a string" rest

end

/-- The line and the column, in bytes, after the given text. -/
def lineAndColumn (source : List Char) : Nat × Nat :=
  source.foldl
    (fun (line, column) c =>
      if c = '\n' then (line + 1, 0) else (line, column + (Text.encodeChar c).length))
    (1, 0)

def read (source : String) : Except String Json :=
  let chars := source.toList
  let outcome := do
    let (value, rest) ← takeValue (2 * chars.length + 2) 127 chars
    match skipSpace rest with
    | [] => return value
    | _ :: rest => faultAt "trailing characters" rest
  match outcome with
  | .ok value => .ok value
  | .error fault =>
      let (line, column) := lineAndColumn (chars.take (chars.length - fault.remaining))
      .error s!"{fault.reason} at line {line} column {column}"

end PageInjection.Json
