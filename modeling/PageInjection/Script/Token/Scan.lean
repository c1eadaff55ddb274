import PageInjection.Decimal.Read
import PageInjection.Script.Token
import PageInjection.Text.Blank
import PageInjection.Text.Numeral
import PageInjection.Text.Separated

/-!
# Cutting a script into tokens

`Token.scan` goes through a script once.  A fault becomes a token of its own and
ends the sequence; every sequence ends with a fault or with `finish`.
-/

namespace PageInjection.Script.Token

/-- A script from some place on. -/
structure Rest where
  chars : List Char
  spot : Spot

namespace Rest

def skip : (count : Nat) → Rest → Rest
  | 0, rest => rest
  | _, ⟨[], spot⟩ => ⟨[], spot⟩
  | count + 1, ⟨c :: chars, spot⟩ => skip count ⟨chars, spot.after c⟩

def tail (rest : Rest) : Rest := rest.skip 1

end Rest

def skipLine : List Char → Spot → Rest
  | [], spot => ⟨[], spot⟩
  | c :: chars, spot =>
      if c = '\n' then ⟨c :: chars, spot⟩ else skipLine chars (spot.after c)

/-- Skip a bracketed comment; comments nest. -/
def skipComment : (depth : Nat) → List Char → Spot → Rest
  | _, [], spot => ⟨[], spot⟩
  | depth, '/' :: '*' :: chars, spot =>
      skipComment (depth + 1) chars ((spot.after '/').after '*')
  | depth, '*' :: '/' :: chars, spot =>
      let spot := (spot.after '*').after '/'
      if depth ≤ 1 then ⟨chars, spot⟩ else skipComment (depth - 1) chars spot
  | depth, c :: chars, spot => skipComment depth chars (spot.after c)

def skipBlanks : (fuel : Nat) → Rest → Rest
  | 0, rest => rest
  | fuel + 1, rest =>
      match rest.chars with
      | '/' :: '/' :: chars => skipBlanks fuel (skipLine chars (rest.skip 2).spot)
      | '/' :: '*' :: chars => skipBlanks fuel (skipComment 1 chars (rest.skip 2).spot)
      | c :: _ => if Text.isBlank c then skipBlanks fuel rest.tail else rest
      | [] => rest

/-- How a quoted text ends. -/
inductive TextEnd where
  | closed
  | embedded
  | fault (reason : TokenFault) (spot : Spot)

/-- What kind of quotes a text has. -/
structure Quotes where
  mark : Char
  verbatim : Bool
  continued : Bool
  limit : Nat
  opened : Spot

/-- The number of hexadecimal digits after an escape letter. -/
def escapeWidth? (c : Char) : Option Nat :=
  if c = 'x' then some 2 else if c = 'u' then some 4 else if c = 'U' then some 8 else none

/-- Read the digits of an escape; `seen` is the escape so far, last first. -/
def takeEscape : (count value : Nat) → (seen : List Char) → List Char → Spot →
    Except (TokenFault × Spot) (Char × Rest)
  | 0, value, seen, chars, spot =>
      if value < 0xD800 ∨ (0xE000 ≤ value ∧ value < 0x110000) then
        .ok (Char.ofNat value, ⟨chars, spot⟩)
      else .error (.badEscape (String.ofList seen.reverse), spot)
  | _ + 1, _, seen, [], spot => .error (.badEscape (String.ofList seen.reverse), spot)
  | count + 1, value, seen, c :: chars, spot =>
      match Text.hexValue? c with
      | some digit => takeEscape count (value * 16 + digit) (c :: seen) chars (spot.after c)
      | none => .error (.badEscape (String.ofList (c :: seen).reverse), spot.after c)

/-- Read a quoted text after its opening mark; `done` is what was read, last
first, and `size` its bytes. -/
def takeText (quotes : Quotes) : (fuel : Nat) → (done : List Char) → (size : Nat) → Rest →
    String × TextEnd × Rest
  | 0, done, _, rest => (String.ofList done.reverse, .fault .openText quotes.opened, rest)
  | fuel + 1, done, size, rest =>
      let finished := String.ofList done.reverse
      if quotes.limit > 0 ∧ size > quotes.limit then
        (finished, .fault (.textTooLong quotes.limit) quotes.opened, rest)
      else
        match rest.chars with
        | [] => (finished, .fault .openText quotes.opened, rest)
        | c :: chars =>
            let put (c : Char) (rest : Rest) :=
              takeText quotes fuel (c :: done) (size + c.utf8Size) rest
            let two := rest.skip 2
            if c = quotes.mark then
              if chars.head? = some quotes.mark then put c two
              else (finished, .closed, rest.tail)
            else if c = '$' ∧ quotes.verbatim ∧ chars.head? = some '\x7b' then
              (finished, .embedded, rest.tail)
            else if c = '\r' ∧ chars.head? = some '\n' then
              takeText quotes fuel done size rest.tail
            else if c = '\n' ∧ !quotes.verbatim then
              (finished, .fault .openText quotes.opened, rest)
            else if c = '\\' ∧ !quotes.verbatim then
              match chars with
              | [] => (finished, .fault .openText quotes.opened, rest.tail)
              | e :: more =>
                  if e = '\\' ∨ e = quotes.mark then put e two
                  else if e = 't' then put '\t' two
                  else if e = 'n' then put '\n' two
                  else if e = 'r' then put '\r' two
                  else if e = '\n' ∧ quotes.continued then
                    let column := quotes.opened.column
                    let blanks := (more.takeWhile fun c => c != '\n' && Text.isBlank c).take column
                    takeText quotes fuel done size (two.skip blanks.length)
                  else
                    match escapeWidth? e with
                    | some width =>
                        match takeEscape width 0 [e, '\\'] more two.spot with
                        | .ok (value, rest) => put value rest
                        | .error (reason, spot) => (finished, .fault reason spot, rest)
                    | none =>
                        (finished, .fault (.badEscape (String.ofList ['\\', e])) two.spot, rest)
            else put c rest.tail

def startsName (c : Char) : Bool := c.isAlpha || c == '_'

/-- Whether a character can stand inside a name. -/
def insideName (c : Char) : Bool := c.isAlphanum || c == '_'

def symbolAt? (list : List String) (chars : List Char) : Option String :=
  list.find? fun symbol => (Text.dropLead? symbol.toList chars).isSome

/-- Whether a character is a digit of a base. -/
def isDigitOf (base : Nat) (c : Char) : Bool :=
  match Text.hexValue? c with
  | some value => value < base
  | none => false

/-- The letter of a base after a leading zero. -/
def baseOf? (c : Char) : Option Nat :=
  if c = 'x' ∨ c = 'X' then some 16
  else if c = 'o' ∨ c = 'O' then some 8
  else if c = 'b' ∨ c = 'B' then some 2
  else none

/-- The value of digits of a base, as a whole number in two's complement. -/
def baseValue? (base : Nat) (digits : List Char) : Option Int :=
  if digits.isEmpty then none
  else
    let value := digits.foldl (fun value c => value * base + (Text.hexValue? c).getD 0) 0
    if value < 0x8000000000000000 then some (Int.ofNat value)
    else if value < 0x10000000000000000 then some (Int.ofNat value - 0x10000000000000000)
    else none

/-- What a decimal number consists of. -/
structure Decimal where
  whole : List Char := []
  fraction : Option (List Char) := none
  exponent : Option (Bool × List Char) := none

/-- Take digits, leaving out separators between them; `count` characters were
taken in all. -/
def takeDigits (isDigit : Char → Bool) : List Char → List Char × Nat × List Char
  | [] => ([], 0, [])
  | c :: chars =>
      if isDigit c then
        let (digits, count, rest) := takeDigits isDigit chars
        (c :: digits, count + 1, rest)
      else if c = '_' then
        let (digits, count, rest) := takeDigits isDigit chars
        (digits, count + 1, rest)
      else ([], 0, c :: chars)

/-- Take the part of a number after the point. -/
def takeFraction (number : Decimal) (chars : List Char) : Decimal × Nat × List Char :=
  match chars with
  | '.' :: c :: rest =>
      if c.isDigit then
        let (digits, count, rest) := takeDigits Char.isDigit (c :: rest)
        ({ number with fraction := some digits }, count + 1, rest)
      else if c = '_' ∨ c = '.' ∨ startsName c then (number, 0, chars)
      else ({ number with fraction := some [] }, 1, c :: rest)
  | _ => (number, 0, chars)

def takeExponent (number : Decimal) (chars : List Char) : Decimal × Nat × List Char :=
  match chars with
  | 'e' :: c :: rest =>
      if c.isDigit then
        let (digits, count, rest) := takeDigits Char.isDigit (c :: rest)
        ({ number with exponent := some (false, digits) }, count + 1, rest)
      else if c = '-' ∨ c = '+' then
        let (digits, count, rest) := takeDigits Char.isDigit rest
        ({ number with exponent := some (c = '-', digits) }, count + 2, rest)
      else (number, 0, chars)
  | _ => (number, 0, chars)

def Decimal.token (number : Decimal) (negative : Bool) : Token :=
  let digits := number.whole ++ number.fraction.getD []
  let value := Decimal.digitsValue digits
  let broken (power : Int) : Token :=
    let size := Decimal.nearest value (power - (number.fraction.getD []).length)
    .float (if negative then -size else size)
  match number.fraction, number.exponent with
  | none, none =>
      let signed := if negative then -Int.ofNat value else Int.ofNat value
      if -0x8000000000000000 ≤ signed ∧ signed < 0x8000000000000000 then .integer signed
      else broken 0
  | _, none => broken 0
  | fraction, some (down, []) =>
      let point := (fraction.map ('.' :: ·)).getD []
      let sign := if down then ['-'] else ['+']
      .fault (.badNumber (String.ofList (number.whole ++ point ++ 'e' :: sign)))
  | _, some (down, power) =>
      let power := Int.ofNat (Decimal.digitsValue power)
      broken (if down then -power else power)

/-- Take a number, whose sign was taken already. -/
def takeNumber (negative : Bool) (rest : Rest) : Token × Rest :=
  let decimal : Token × Rest :=
    let (whole, count, chars) := takeDigits Char.isDigit rest.chars
    let (number, more, chars) := takeFraction { whole } chars
    let (number, most, _) := takeExponent number chars
    (number.token negative, rest.skip (count + more + most))
  match rest.chars with
  | '0' :: letter :: chars =>
      match baseOf? letter with
      | some base =>
          let (digits, count, _) := takeDigits (isDigitOf base) chars
          let token := match baseValue? base digits with
            | some value => .integer (if negative then -value else value)
            | none => .fault (.badNumber (String.ofList digits))
          (token, rest.skip (count + 2))
      | none => decimal
  | _ => decimal

def ofWord (word : String) : Token :=
  if keywords.contains word then .mark word
  else if reservedWords.contains word || callableWords.contains word || word == "this" then
    .reserved word
  else if word.toList.all (· == '_') then
    if word == "_" then .mark word else .fault (.badName word)
  else .name word

/-- Whether the symbol that asks for something not contained is in front of a
text. -/
def asksNotIn (chars : List Char) : Bool :=
  match chars with
  | '!' :: 'i' :: 'n' :: rest => !(rest.head?.any insideName)
  | _ => false

def takeSymbol (rest : Rest) (c : Char) : Token × Rest :=
  let known := (symbolAt? symbols rest.chars).getD ""
  let strange := (symbolAt? strangeSymbols rest.chars).getD ""
  if asksNotIn rest.chars then (.mark "!in", rest.skip 3)
  else if strange.length > known.length then
    let token := match strangeMessage? strange with
      | some message => .fault (.improper message)
      | none => .reserved strange
    (token, rest.skip strange.length)
  else if known.isEmpty then (.fault (.unexpected (String.singleton c)), rest.tail)
  else if known == "..." then (.reserved known, rest.skip 3)
  else (.mark known, rest.skip known.length)

def takeQuoted (textLimit : Nat) (rest : Rest) (mark : Char) : Lexeme × Rest :=
  let spot := rest.spot.next
  let quotes : Quotes := ⟨mark, false, mark == '"', textLimit, spot⟩
  match takeText quotes (rest.chars.length + 1) [] 0 rest.tail with
  | (_, .fault reason spot, after) => (⟨.fault reason, spot⟩, after)
  | (content, _, after) =>
      let token := if mark = '"' then .text content
        else
          match content.toList with
          | [value] => .char value
          | _ => .fault (.badChar content)
      (⟨token, spot⟩, after)

/-- Take one token that is not the continuation of a text. -/
def takeToken (textLimit : Nat) (signed : Bool) (rest : Rest) (c : Char) : Lexeme × Rest :=
  let here (result : Token × Rest) : Lexeme × Rest := (⟨result.1, rest.spot.next⟩, result.2)
  if c.isDigit then here (takeNumber false rest)
  else if c = '-' ∧ signed ∧ (rest.chars.tail.head?.any Char.isDigit) then
    here (takeNumber true rest.tail)
  else if startsName c then
    let word := rest.chars.takeWhile insideName
    here (ofWord (String.ofList word), rest.skip word.length)
  else if c = '"' ∨ c = '\'' then takeQuoted textLimit rest c
  else here (takeSymbol rest c)

/-- The tokens of a script from a place on.  `texts` holds, for every text with
embedded code that is open, where it starts and how many curly brackets are open
in the code. -/
def scanFrom (textLimit : Nat) : (fuel : Nat) → (signed inText : Bool) →
    (texts : List (Spot × Nat)) → Rest → List Lexeme
  | 0, _, _, _, rest => [⟨.finish, rest.spot.next⟩]
  | fuel + 1, signed, inText, texts, rest =>
      if inText then
        match texts with
        | [] => [⟨.finish, rest.spot.next⟩]
        | (opened, _) :: outer =>
            let quotes : Quotes := ⟨'`', true, false, textLimit, opened⟩
            match takeText quotes (rest.chars.length + 1) [] 0 rest with
            | (content, .closed, after) =>
                ⟨.text content, rest.spot.next⟩ :: scanFrom textLimit fuel false false outer after
            | (content, .embedded, after) =>
                ⟨.textPart content, rest.spot.next⟩ ::
                  scanFrom textLimit fuel true false texts after
            | (_, .fault reason spot, _) => [⟨.fault reason, spot⟩]
      else
        let rest := skipBlanks (rest.chars.length + 1) rest
        match rest.chars with
        | [] => [⟨.finish, rest.spot.next⟩]
        | '`' :: chars =>
            let opened := rest.spot.next
            let body := match chars with
              | '\r' :: '\n' :: _ => rest.skip 3
              | '\n' :: _ => rest.skip 2
              | '\r' :: _ => rest.skip 2
              | _ => rest.tail
            let quotes : Quotes := ⟨'`', true, false, textLimit, opened⟩
            match takeText quotes (rest.chars.length + 1) [] 0 body with
            | (content, .closed, after) =>
                ⟨.text content, opened⟩ :: scanFrom textLimit fuel false false texts after
            | (content, .embedded, after) =>
                ⟨.textPart content, opened⟩ ::
                  scanFrom textLimit fuel true false ((opened, 0) :: texts) after
            | (_, .fault reason spot, _) => [⟨.fault reason, spot⟩]
        | c :: _ =>
            let (lexeme, after) := takeToken textLimit signed rest c
            match lexeme.token with
            | .fault _ => [lexeme]
            | token =>
                let (inText, texts) := match token, texts with
                  | .mark symbol, (opened, depth) :: outer =>
                      if symbol == "\x7b" || symbol == "#\x7b" then
                        (false, (opened, depth + 1) :: outer)
                      else if symbol == "\x7d" then (depth ≤ 1, (opened, depth - 1) :: outer)
                      else (false, texts)
                  | _, texts => (false, texts)
                lexeme :: scanFrom textLimit fuel token.allowsSign inText texts after

/-- The tokens of a script.  Texts longer than the limit are a fault; zero
stands for no limit. -/
def scan (textLimit : Nat) (script : String) : List Lexeme :=
  let chars := script.toList
  scanFrom textLimit (2 * chars.length + 2) true false [] ⟨chars, .start⟩

end PageInjection.Script.Token
