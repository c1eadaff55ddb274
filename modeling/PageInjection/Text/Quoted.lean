import PageInjection.Text.Escaped
import PageInjection.Text.Numeral

/-!
# Quoted texts

How a text or a character is shown inside a list or a message: in quotes, with
everything that cannot be seen written as an escape.
-/

namespace PageInjection.Text

/-- The hexadecimal digits of a number, without leading zeros. -/
def hexDigits (value : Nat) : List Char :=
  Nat.toDigits 16 value

def quotedChar (mark c : Char) : List Char :=
  if c = mark then ['\\', mark]
  else if c = '\\' then ['\\', '\\']
  else if c = '\n' then ['\\', 'n']
  else if c = '\r' then ['\\', 'r']
  else if c = '\t' then ['\\', 't']
  else if c.toNat = 0 then ['\\', '0']
  else if c.toNat < 32 || c.toNat == 127 || isEscaped c then
    ['\\', 'u', '\x7b'] ++ hexDigits c.toNat ++ ['\x7d']
  else [c]

def quoted (text : String) : String :=
  "\"" ++ String.ofList (text.toList.flatMap (quotedChar '"')) ++ "\""

def quotedLetter (c : Char) : String :=
  "'" ++ String.ofList (quotedChar '\'' c) ++ "'"

end PageInjection.Text
