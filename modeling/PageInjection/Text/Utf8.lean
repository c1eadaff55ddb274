/-!
# UTF-8

Encoding of characters as bytes, and a decoder that accepts exactly the
shortest forms of Unicode scalar values and reports where a text stops being
one.  Bytes are ordered lexicographically; `byteLt` is that order on texts.
-/

namespace PageInjection.Text

def encodeChar (c : Char) : List UInt8 :=
  let code := c.toNat
  if code < 0x80 then [UInt8.ofNat code]
  else if code < 0x800 then
    [UInt8.ofNat (0xC0 + code / 64), UInt8.ofNat (0x80 + code % 64)]
  else if code < 0x10000 then
    [UInt8.ofNat (0xE0 + code / 4096), UInt8.ofNat (0x80 + code / 64 % 64),
      UInt8.ofNat (0x80 + code % 64)]
  else
    [UInt8.ofNat (0xF0 + code / 262144), UInt8.ofNat (0x80 + code / 4096 % 64),
      UInt8.ofNat (0x80 + code / 64 % 64), UInt8.ofNat (0x80 + code % 64)]

def encode (text : List Char) : List UInt8 :=
  text.flatMap encodeChar

/-- Where and how a byte sequence stops being UTF-8.  `width` is the number of
bytes that cannot be continued to a character; `none` when the bytes end inside
a character. -/
structure Utf8Fault where
  index : Nat
  width : Option Nat
deriving DecidableEq, Repr

def Utf8Fault.message (fault : Utf8Fault) : String :=
  match fault.width with
  | some width => s!"invalid utf-8 sequence of {width} bytes from index {fault.index}"
  | none => s!"incomplete utf-8 byte sequence from index {fault.index}"

/-- What the first bytes of a sequence are. -/
inductive LeadingChar where
  | char (value : Char) (width : Nat)
  | invalid (width : Nat)
  | incomplete

def isTail (byte : Nat) : Bool := 0x80 ≤ byte && byte ≤ 0xBF

/-- The range of the second byte after each leading byte of a longer form:
overlong forms, surrogates and values above the last code point are left out. -/
def isSecond (lead byte : Nat) : Bool :=
  if lead == 0xE0 then 0xA0 ≤ byte && byte ≤ 0xBF
  else if lead == 0xED then 0x80 ≤ byte && byte ≤ 0x9F
  else if lead == 0xF0 then 0x90 ≤ byte && byte ≤ 0xBF
  else if lead == 0xF4 then 0x80 ≤ byte && byte ≤ 0x8F
  else isTail byte

/-- Read one character from the front of a non-empty sequence `lead :: rest`. -/
def decodeChar (lead : UInt8) (rest : List UInt8) : LeadingChar :=
  let first := lead.toNat
  if first < 0x80 then .char (Char.ofNat first) 1
  else if first < 0xC2 then .invalid 1
  else if first < 0xE0 then
    match rest with
    | [] => .incomplete
    | second :: _ =>
        if isTail second.toNat then
          .char (Char.ofNat ((first - 0xC0) * 64 + (second.toNat - 0x80))) 2
        else .invalid 1
  else if first < 0xF0 then
    match rest with
    | [] => .incomplete
    | second :: rest =>
        if isSecond first second.toNat then
          match rest with
          | [] => .incomplete
          | third :: _ =>
              if isTail third.toNat then
                .char (Char.ofNat ((first - 0xE0) * 4096 + (second.toNat - 0x80) * 64 +
                  (third.toNat - 0x80))) 3
              else .invalid 2
        else .invalid 1
  else if first < 0xF5 then
    match rest with
    | [] => .incomplete
    | second :: rest =>
        if isSecond first second.toNat then
          match rest with
          | [] => .incomplete
          | third :: rest =>
              if isTail third.toNat then
                match rest with
                | [] => .incomplete
                | fourth :: _ =>
                    if isTail fourth.toNat then
                      .char (Char.ofNat ((first - 0xF0) * 262144 +
                        (second.toNat - 0x80) * 4096 + (third.toNat - 0x80) * 64 +
                        (fourth.toNat - 0x80))) 4
                    else .invalid 3
              else .invalid 2
        else .invalid 1
  else .invalid 1

/-- Read bytes from position `index` on; `skip` of them belong to the character
read last. -/
def decodeFrom : (index skip : Nat) → List UInt8 → Except Utf8Fault (List Char)
  | _, _, [] => .ok []
  | index, skip + 1, _ :: rest => decodeFrom (index + 1) skip rest
  | index, 0, lead :: rest =>
      match decodeChar lead rest with
      | .char value width => do
          let text ← decodeFrom (index + 1) (width - 1) rest
          return value :: text
      | .invalid width => .error ⟨index, some width⟩
      | .incomplete => .error ⟨index, none⟩

def decode (bytes : List UInt8) : Except Utf8Fault (List Char) :=
  decodeFrom 0 0 bytes

/-- The lexicographic order of byte sequences. -/
def bytesLt : List UInt8 → List UInt8 → Bool
  | _, [] => false
  | [], _ :: _ => true
  | a :: left, b :: right => a < b || (a == b && bytesLt left right)

def byteLt (left right : String) : Bool :=
  bytesLt (encode left.toList) (encode right.toList)

end PageInjection.Text
